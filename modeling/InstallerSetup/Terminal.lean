import InstallerSetup.Form.Run

/-!
# The terminal

The texts that a terminal shows for the moments of a form, how typed lines become answers, and what
a form comes to when there is no terminal to ask on.
-/

namespace InstallerSetup.Terminal

open Form (Answer Field Moment Question Report)

/-- What is typed to clear a value that is not shown. -/
def clearMark : String := "-"

def prompt (info : Field.Info) : String :=
  if info.placeholder.isEmpty then info.title
  else info.title ++ " (e.g. " ++ info.placeholder ++ ")"

/-- The value that a masked answer stands for: nothing typed keeps the current one. -/
def maskedValue (typed current : String) : String :=
  if typed.isEmpty then current else if typed = clearMark then "" else typed

/-- The value that typed lines stand for: none keeps the current one, and others end in a break. -/
def linesValue (lines : List String) (current : String) : String :=
  let block := "\n".intercalate lines ++ "\n"
  match lines with
  | [] => current
  | [only] => if Text.trim only = clearMark then "" else block
  | _ => block

/--
The failure that a fault of the terminal comes to; an interruption means that the user gave up.
-/
def failure (fault : Storage.Fault) : Failure :=
  if fault.kind = .interrupted then .aborted else .terminal fault.message

def notATerminal : Failure := .terminal "not a terminal"

def heading (title : String) : String := "\n" ++ Text.trim title ++ "\n"

def complaint (info : Field.Info) (failure : Failure) : String :=
  "✗ " ++ info.title ++ ": " ++ failure.complaint ++ "\n"

def screenText : Moment → String
  | .began title => heading title
  | .refused info failure => complaint info failure
  | _ => ""

def screen (r : Report) : String := String.join (r.moments.map screenText)

def isUnanswered : Moment → Bool
  | .unanswered _ => true
  | _ => false

/-- A form without a terminal, which fails at its first question. -/
def unattended (form : Form) (s : Form.State) (catalog : Catalog) : Report :=
  let r := Form.run catalog form s []
  { r with
    moments := r.moments.filter fun moment => !isUnanswered moment
    result :=
      match r.result with
      | .error .aborted => .error notATerminal
      | other => other }

/-! ## Dialogue -/

/-- The last question of a run that waits for an answer. -/
def pending? (r : Report) : Option (Field.Info × Question) :=
  match r.result, r.moments.reverse with
  | .error .aborted, .unanswered _ :: .asked info question :: _ => some (info, question)
  | _, _ => none

def optionLines (mark : Nat → String) : List String → Nat → String
  | [], _ => ""
  | option :: rest, index =>
      mark index ++ toString (index + 1) ++ ") " ++ option ++ "\n" ++
        optionLines mark rest (index + 1)

def questionText (info : Field.Info) (question : Question) : String :=
  let description := if info.description.isEmpty then "" else info.description ++ "\n"
  let head := description ++ "? " ++ prompt info
  match question with
  | .input current masked =>
      let hint :=
        if current.isEmpty then ""
        else if masked then " [empty keeps current, - clears]"
        else " [" ++ current ++ "; - clears]"
      head ++ hint ++ ": "
  | .text current =>
      let shown := if current.isEmpty then "" else Text.trimEnd current ++ "\n"
      head ++ " (end with an empty line; empty keeps current, - clears)\n" ++ shown
  | .confirm yes no current =>
      let start := if current then 0 else 1
      head ++ "\n" ++ optionLines (fun i => if i = start then "> " else "  ") [yes, no] 0
  | .select options start =>
      head ++ "\n" ++ optionLines (fun i => if i = start then "> " else "  ") options 0
  | .multiSelect options selected =>
      head ++ " (numbers, or - for none)\n" ++
        optionLines (fun i => if selected[i]? = some true then "[x] " else "[ ] ") options 0

def takesLines : Question → Bool
  | .text _ => true
  | _ => false

def position? (count : Nat) (digits : List Char) : Option Nat :=
  match Rule.signedNumeral digits with
  | .ok n => if 1 ≤ n ∧ n ≤ count then some (n - 1) else none
  | .error _ => none

def positions? (count : Nat) (line : String) : Option (List Nat) :=
  ((Text.pieces ' ' line.toList).filter fun piece => !piece.isEmpty).mapM (position? count)

/-- The answer that typed lines give, if they make sense; nothing typed accepts what is there. -/
def answer? (question : Question) (lines : List String) : Option Answer :=
  let line := Text.trim ("\n".intercalate lines)
  match question with
  | .input current _ => some (.text (maskedValue ("\n".intercalate lines) current))
  | .text current => some (.text (linesValue lines current))
  | .confirm .. =>
      if line.isEmpty then some .accept
      else (position? 2 line.toList).map fun i => .confirm (i == 0)
  | .select options _ =>
      if line.isEmpty then some .accept else (position? options.length line.toList).map .choose
  | .multiSelect options _ =>
      if line.isEmpty then some .accept
      else if line = clearMark then some (.chooseMany [])
      else (positions? options.length line).map .chooseMany

end InstallerSetup.Terminal
