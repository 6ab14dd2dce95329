/-!
# Quoted tokens

A quoted token stands between two copies of one quote character, and a quote inside it is
written twice.  Main statement: reading a token back gives exactly the text and what follows it,
as long as what follows does not begin with the quote (`read?_enclose_append`).
-/

namespace TablePlan.Text.Quoted

/-- The inside of a token: every quote twice, all else once. -/
def double (quote : Char) : List Char → List Char
  | [] => []
  | c :: rest => if c = quote then quote :: quote :: double quote rest else c :: double quote rest

/-- The written token. -/
def enclose (quote : Char) (text : List Char) : List Char :=
  quote :: (double quote text ++ [quote])

/-- Reads the inside of a token up to the first quote that does not stand before another one. -/
def readInside (quote : Char) : List Char → Option (List Char × List Char)
  | [] => none
  | [c] => if c = quote then some ([], []) else none
  | c :: d :: rest =>
    if c = quote then
      if d = quote then (readInside quote rest).map fun found => (quote :: found.1, found.2)
      else some ([], d :: rest)
    else (readInside quote (d :: rest)).map fun found => (c :: found.1, found.2)

/-- Reads one token from the front; `none` when there is none, or when it is not closed. -/
def read? (quote : Char) : List Char → Option (List Char × List Char)
  | [] => none
  | c :: rest => if c = quote then readInside quote rest else none

theorem readInside_double_append (quote : Char) (text rest : List Char)
    (free : rest.head? ≠ some quote) :
    readInside quote (double quote text ++ quote :: rest) = some (text, rest) := by
  induction text with
  | nil =>
    cases rest with
    | nil => simp [double, readInside]
    | cons c tail =>
      have different : ¬ c = quote := by simpa using free
      simp [double, readInside, different]
  | cons c tail ih =>
    by_cases same : c = quote
    · subst same
      simp [double, readInside, ih]
    · have step : ∀ d more, readInside quote (c :: d :: more)
          = (readInside quote (d :: more)).map fun found => (c :: found.1, found.2) := by
        intro d more
        simp [readInside, same]
      cases tail with
      | nil => simpa [double, same, step] using ih
      | cons d more =>
        by_cases again : d = quote
        · simp only [double, again, ↓reduceIte, same, List.cons_append] at ih ⊢
          rw [step, ih]
          rfl
        · simp only [double, again, ↓reduceIte, same, List.cons_append] at ih ⊢
          rw [step, ih]
          rfl

/-- A written token reads back as its text, and nothing of what follows is taken. -/
theorem read?_enclose_append (quote : Char) (text rest : List Char)
    (free : rest.head? ≠ some quote) :
    read? quote (enclose quote text ++ rest) = some (text, rest) := by
  simp [enclose, read?, readInside_double_append quote text rest free]

end TablePlan.Text.Quoted
