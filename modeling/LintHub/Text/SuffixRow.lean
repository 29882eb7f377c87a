/-!
# Tests of all the ends of a text

To match a pattern one asks of every end of the text, from the whole to the empty one,
whether the rest of the pattern matches it. The answers stand in a row, and a part of the
pattern makes a row of the row of what follows it, in one pass over the text.

* `one_ofTest`, `run_ofTest`, `behind_ofTest`: each pass gives the row of the test that it
  stands for, so the passes may be put one behind the other.
-/

namespace LintHub.Text

variable {α : Type}

/-- An answer for each end of a text. -/
abbrev SuffixRow := List Bool

namespace SuffixRow

/-- The row of a test. -/
def ofTest (test : List α → Bool) : List α → SuffixRow
  | [] => [test []]
  | c :: cs => test (c :: cs) :: ofTest test cs

/-- The answer for the whole text. -/
def whole (row : SuffixRow) : Bool := row.headD false

/-- The answer for the empty end. -/
def atEnd (row : SuffixRow) : Bool := row.getLastD false

/-- Whether one of two tests passes. -/
def either (a b : SuffixRow) : SuffixRow := List.zipWith (· || ·) a b

/-- Whether the first element is accepted and what is behind it passes. -/
def one (accepts : α → Bool) : List α → SuffixRow → SuffixRow
  | c :: cs, _ :: row => (accepts c && whole row) :: one accepts cs row
  | _, _ => [false]

/-- Whether what is left passes when some accepted elements are taken away. -/
def run (accepts : α → Bool) : List α → SuffixRow → SuffixRow
  | c :: cs, b :: row =>
    let later := run accepts cs row
    (b || (accepts c && whole later)) :: later
  | _, row => row

/-- Whether what is behind some accepted element passes. -/
def behind (accepts : α → Bool) : List α → SuffixRow → SuffixRow
  | c :: cs, _ :: row =>
    let later := behind accepts cs row
    ((accepts c && whole row) || whole later) :: later
  | _, _ => [false]

/-- The test that `one` stands for. -/
def oneTest (accepts : α → Bool) (test : List α → Bool) : List α → Bool
  | [] => false
  | c :: cs => accepts c && test cs

/-- The test that `run` stands for. -/
def runTest (accepts : α → Bool) (test : List α → Bool) : List α → Bool
  | [] => test []
  | c :: cs => test (c :: cs) || (accepts c && runTest accepts test cs)

/-- The test that `behind` stands for. -/
def behindTest (accepts : α → Bool) (test : List α → Bool) : List α → Bool
  | [] => false
  | c :: cs => (accepts c && test cs) || behindTest accepts test cs

@[simp] theorem whole_ofTest (test : List α → Bool) (cs : List α) :
    whole (ofTest test cs) = test cs := by
  cases cs <;> rfl

@[simp] theorem atEnd_ofTest (test : List α → Bool) (cs : List α) :
    atEnd (ofTest test cs) = test [] := by
  induction cs with
  | nil => rfl
  | cons c cs ih => cases cs <;> simp_all [ofTest, atEnd]

theorem either_ofTest (test other : List α → Bool) (cs : List α) :
    either (ofTest test cs) (ofTest other cs) = ofTest (fun cs => test cs || other cs) cs := by
  induction cs with
  | nil => rfl
  | cons c cs ih => simp_all [ofTest, either]

theorem map_ofTest (f : Bool → Bool) (test : List α → Bool) (cs : List α) :
    List.map f (ofTest test cs) = ofTest (fun cs => f (test cs)) cs := by
  induction cs with
  | nil => rfl
  | cons c cs ih => simp_all [ofTest]

theorem one_ofTest (accepts : α → Bool) (test : List α → Bool) (cs : List α) :
    one accepts cs (ofTest test cs) = ofTest (oneTest accepts test) cs := by
  induction cs with
  | nil => rfl
  | cons c cs ih => simp [ofTest, one, oneTest, ih]

theorem run_ofTest (accepts : α → Bool) (test : List α → Bool) (cs : List α) :
    run accepts cs (ofTest test cs) = ofTest (runTest accepts test) cs := by
  induction cs with
  | nil => rfl
  | cons c cs ih => simp [ofTest, run, runTest, ih]

theorem behind_ofTest (accepts : α → Bool) (test : List α → Bool) (cs : List α) :
    behind accepts cs (ofTest test cs) = ofTest (behindTest accepts test) cs := by
  induction cs with
  | nil => rfl
  | cons c cs ih => simp [ofTest, behind, behindTest, ih]

end SuffixRow
end LintHub.Text
