import InstallerSetup.Form.Question
import InstallerSetup.Text.Quoted

/-!
# Answers

An answer either accepts what a question starts from or gives a value of some kind. Only an answer
of the question's kind fits it.
-/

namespace InstallerSetup.Form

inductive Answer where
  | accept
  | text (value : String)
  | confirm (value : Bool)
  | choose (index : Nat)
  | chooseMany (indices : List Nat)
  deriving DecidableEq, Repr

namespace Answer

def text? (current : String) : Answer → Option String
  | accept => some current
  | text value => some value
  | _ => none

def flag? (current : Bool) : Answer → Option Bool
  | accept => some current
  | confirm value => some value
  | _ => none

def index? (current : Nat) : Answer → Option Nat
  | accept => some current
  | choose index => some index
  | _ => none

/-- Positions in increasing order without repetition. -/
def ordered (indices : List Nat) : List Nat :=
  (indices.mergeSort fun a b => a ≤ b).eraseReps

def indices? (current : List Nat) : Answer → Option (List Nat)
  | accept => some current
  | chooseMany indices => some (ordered indices)
  | _ => none

def describe : Answer → String
  | accept => "Accept"
  | text value => "Text(" ++ Text.quoted value ++ ")"
  | confirm value => if value then "Confirm(true)" else "Confirm(false)"
  | choose index => "Choose(" ++ toString index ++ ")"
  | chooseMany indices => "ChooseMany([" ++ ", ".intercalate (indices.map toString) ++ "])"

end Answer

end InstallerSetup.Form
