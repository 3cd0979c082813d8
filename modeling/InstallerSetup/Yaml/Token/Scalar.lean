import InstallerSetup.Yaml.Cursor
import InstallerSetup.Yaml.Fault

/-!
# The text of scalars

Plain, quoted and block scalars, each read from the characters after its first indicator up to its
end. Blanks and line breaks between two words form a `Gap`, which is folded when the next word
begins: one line break becomes a space, and of several the first is dropped.
-/

namespace InstallerSetup.Yaml.Scalar

/-- The blanks and line breaks since the last word of a scalar. -/
structure Gap where
  /-- Blanks on the line of the last word; they count only if no line break follows. -/
  blanks : String
  /-- The first line break, if that counts. -/
  first : String
  /-- The line breaks after the first one. -/
  later : String
  /-- Whether a line has ended since the last word. -/
  broken : Bool

namespace Gap

def closed : Gap := ⟨"", "", "", false⟩

def afterCancelledBreak : Gap := ⟨"", "", "", true⟩

def isOpen (g : Gap) : Bool := g.broken || !g.blanks.isEmpty

def addBlank (g : Gap) (c : Char) : Gap :=
  if g.broken then g else { g with blanks := g.blanks.push c }

def addBreak (g : Gap) (c : Char) : Gap :=
  if g.broken then { g with later := g.later.push c }
  else ⟨"", String.singleton c, g.later, true⟩

def fold (g : Gap) : String :=
  if g.broken then
    if g.first = "\n" then (if g.later.isEmpty then " " else g.later) else g.first ++ g.later
  else g.blanks

end Gap

def endsPlain (inFlow : Bool) (c : Char) (following : Option Char) : Bool :=
  (c == ':' && endsWord following) || (inFlow && isFlowIndicator c)

/-- In a flow collection a colon may not stand directly before these characters. -/
def forbidsColon (following : Option Char) : Bool :=
  match following with
  | some c => isFlowIndicator c || c == '?'
  | none => false

/--
Reads a plain scalar that began at `start`. Its lines after the first stand at column `indent` or
more, unless it is inside a flow collection. Besides the text, the answer says whether a line has
ended between the last word and the place where reading stopped.
-/
def plain (inFlow : Bool) (indent : Nat) (start : Mark) (cs : List Char) (mark : Mark) (gap : Gap)
    (text : String) : Except Fault (String × Bool × Cursor) :=
  match cs with
  | [] => .ok (text, gap.broken, ⟨[], mark⟩)
  | c :: rest =>
      let stop : Except Fault (String × Bool × Cursor) := .ok (text, gap.broken, ⟨c :: rest, mark⟩)
      if isBlank c then
        if gap.broken && c == '\t' && mark.column < indent then
          .error (.syntactic .tabBreaksIndentation mark (some (.plainScalar, start)))
        else plain inFlow indent start rest mark.next (gap.addBlank c) text
      else
        match _h : splitBreak? (c :: rest) with
        | some (kept, count, tail) =>
            plain inFlow indent start tail (mark.nextLine count) (gap.addBreak kept) text
        | none =>
            if gap.isOpen && ((!inFlow && mark.column < indent) ||
                (mark.column == 0 && startsWithDocumentMark (c :: rest)) || c == '#') then stop
            else if inFlow && c == ':' && forbidsColon rest.head? then
              .error (.syntactic .colonInFlow mark (some (.plainScalar, start)))
            else if endsPlain inFlow c rest.head? then stop
            else plain inFlow indent start rest mark.next .closed ((text ++ gap.fold).push c)
termination_by cs.length
decreasing_by
  · simp
  · exact length_of_splitBreak? _h
  · simp

def simpleEscape? (c : Char) : Option Char :=
  if c == '0' then some '\x00'
  else if c == 'a' then some '\x07'
  else if c == 'b' then some '\x08'
  else if c == 't' || c == '\t' then some '\t'
  else if c == 'n' then some '\n'
  else if c == 'v' then some '\x0b'
  else if c == 'f' then some '\x0c'
  else if c == 'r' then some '\r'
  else if c == 'e' then some '\x1b'
  else if c == ' ' || c == '\x22' || c == '/' || c == '\\' then some c
  else if c == 'N' then some '\u0085'
  else if c == '_' then some '\u00a0'
  else if c == 'L' then some '\u2028'
  else if c == 'P' then some '\u2029'
  else none

def codeLength? (c : Char) : Option Nat :=
  if c == 'x' then some 2
  else if c == 'u' then some 4
  else if c == 'U' then some 8
  else none

def hexCode? : Nat → List Char → Nat → Option Nat
  | 0, _, value => some value
  | _ + 1, [], _ => none
  | count + 1, c :: rest, value =>
      match hexValue? c with
      | some digit => hexCode? count rest (16 * value + digit)
      | none => none

def escape (start mark : Mark) (following : List Char) : Except Fault (Char × Nat) :=
  let fail (problem : Problem) (mark : Mark) : Except Fault (Char × Nat) :=
    .error (.syntactic problem mark (some (.quotedEscape, start)))
  match following with
  | [] => fail .unknownEscape mark
  | letter :: digits =>
      match simpleEscape? letter with
      | some c => .ok (c, 1)
      | none =>
          match codeLength? letter with
          | none => fail .unknownEscape mark
          | some count =>
              match hexCode? count digits 0 with
              | none => fail .missingHexDigit (mark.advance 2)
              | some code =>
                  if (0xD800 ≤ code && code ≤ 0xDFFF) || 0x10FFFF < code then
                    fail .badCodePoint (mark.advance 2)
                  else .ok (Char.ofNat code, 1 + count)

def quotedText (single : Bool) (start : Mark) (cs : List Char) (mark : Mark) (gap : Gap)
    (text : String) : Except Fault (String × Cursor) :=
  match cs with
  | [] => .error (.syntactic .endInScalar mark (some (.quotedScalar, start)))
  | c :: rest =>
      if isBlank c then quotedText single start rest mark.next (gap.addBlank c) text
      else
        match _h : splitBreak? (c :: rest) with
        | some (kept, count, tail) =>
            quotedText single start tail (mark.nextLine count) (gap.addBreak kept) text
        | none =>
            let text := text ++ gap.fold
            if mark.column == 0 && startsWithDocumentMark (c :: rest) then
              .error (.syntactic .documentMarkInScalar mark (some (.quotedScalar, start)))
            else if single then
              if c == '\x27' then
                if rest.head? == some '\x27' then
                  quotedText single start (rest.drop 1) (mark.advance 2) .closed (text.push c)
                else .ok (text, ⟨rest, mark.next⟩)
              else quotedText single start rest mark.next .closed (text.push c)
            else if c == '\x22' then .ok (text, ⟨rest, mark.next⟩)
            else if c == '\\' then
              match _h' : splitBreak? rest with
              | some (_, count, tail) =>
                  quotedText single start tail (mark.next.nextLine count) .afterCancelledBreak text
              | none =>
                  match escape start mark rest with
                  | .error fault => .error fault
                  | .ok (ch, count) =>
                      quotedText single start (rest.drop count) (mark.advance (1 + count)) .closed
                        (text.push ch)
            else quotedText single start rest mark.next .closed (text.push c)
termination_by cs.length
decreasing_by
  · simp
  · exact length_of_splitBreak? _h
  · simp only [List.length_drop, List.length_cons]
    omega
  · simp
  · exact Nat.lt_of_lt_of_le (length_of_splitBreak? _h') (by simp)
  · simp only [List.length_drop, List.length_cons]
    omega
  · simp

inductive Chomping where
  | strip
  | clip
  | keep
  deriving DecidableEq, Repr

/-- The header of a block scalar; an indentation of zero stands for a missing one. -/
structure Header where
  chomping : Chomping
  indentation : Nat

def chomping? (c : Option Char) : Option Chomping :=
  if c == some '+' then some .keep
  else if c == some '-' then some .strip
  else none

def digit? (c : Option Char) : Option Nat :=
  match c with
  | some c => if c.isDigit then some (c.toNat - '0'.toNat) else none
  | none => none

def header (start : Mark) (c : Cursor) : Except Fault (Header × Cursor) :=
  let indentation (c : Cursor) : Except Fault (Nat × Cursor) :=
    match digit? c.peek with
    | some 0 => .error (.syntactic .zeroIndentation c.mark (some (.blockScalar, start)))
    | some n => .ok (n, c.skip)
    | none => .ok (0, c)
  match chomping? c.peek with
  | some chomping => do
      let (indent, c) ← indentation c.skip
      return (⟨chomping, indent⟩, c)
  | none => do
      let (indent, after) ← indentation c
      if indent = 0 then return (⟨.clip, 0⟩, after)
      match chomping? after.peek with
      | some chomping => return (⟨chomping, indent⟩, after.skip)
      | none => return (⟨.clip, indent⟩, after)

structure Lines where
  text : String
  /-- The break that ended the last line with content. -/
  lineBreak : String
  /-- The breaks of the empty lines after it. -/
  emptyLines : String
  /-- Whether the last line with content begins with a blank. -/
  blankStart : Bool
  /-- Whether reading is inside a line with content. -/
  inLine : Bool

namespace Lines

def none : Lines := ⟨"", "", "", false, false⟩

/-- The text before a new line that begins with `c`; between full lines a break is folded. -/
def openLine (folds : Bool) (s : Lines) (c : Char) : Lines :=
  let blank := isBlank c
  let joint :=
    if folds && s.lineBreak == "\n" && !s.blankStart && !blank then
      if s.emptyLines.isEmpty then " " else s.emptyLines
    else s.lineBreak ++ s.emptyLines
  ⟨(s.text ++ joint).push c, "", "", blank, true⟩

def chomp (s : Lines) : Chomping → String
  | .strip => s.text
  | .clip => s.text ++ s.lineBreak
  | .keep => s.text ++ s.lineBreak ++ s.emptyLines

end Lines

/--
Finds the indentation of a block scalar that does not state it: that of its most indented leading
line, and at least one more than that of the collection around it.
-/
def findIndentation (outer : Int) (start : Mark) (cs : List Char) (mark : Mark) (widest : Nat)
    (breaks : String) : Except Fault (Nat × String × Cursor) :=
  let found := max widest mark.column
  match cs with
  | [] => .ok (max (max found (outer + 1).toNat) 1, breaks, ⟨[], mark⟩)
  | c :: rest =>
      if c == ' ' then findIndentation outer start rest mark.next widest breaks
      else if c == '\t' then
        .error (.syntactic .tabInIndentation mark (some (.blockScalar, start)))
      else
        match _h : splitBreak? (c :: rest) with
        | some (kept, count, tail) =>
            findIndentation outer start tail (mark.nextLine count) found (breaks.push kept)
        | none => .ok (max (max found (outer + 1).toNat) 1, breaks, ⟨c :: rest, mark⟩)
termination_by cs.length
decreasing_by
  · simp
  · exact length_of_splitBreak? _h

def blockLines (folds : Bool) (indent : Nat) (start : Mark) (cs : List Char) (mark : Mark)
    (s : Lines) : Except Fault (Lines × Cursor) :=
  match cs with
  | [] => .ok (s, ⟨[], mark⟩)
  | c :: rest =>
      if !s.inLine && mark.column < indent && c == ' ' then
        blockLines folds indent start rest mark.next s
      else if !s.inLine && mark.column < indent && c == '\t' then
        .error (.syntactic .tabInIndentation mark (some (.blockScalar, start)))
      else
        match _h : splitBreak? (c :: rest) with
        | some (kept, count, tail) =>
            let s :=
              if s.inLine then { s with lineBreak := String.singleton kept, inLine := false }
              else { s with emptyLines := s.emptyLines.push kept }
            blockLines folds indent start tail (mark.nextLine count) s
        | none =>
            if s.inLine then
              blockLines folds indent start rest mark.next { s with text := s.text.push c }
            else if mark.column == indent then
              blockLines folds indent start rest mark.next (s.openLine folds c)
            else .ok (s, ⟨c :: rest, mark⟩)
termination_by cs.length
decreasing_by
  · simp
  · exact length_of_splitBreak? _h
  · simp
  · simp

def block (folds : Bool) (outer : Int) (start : Mark) (c : Cursor) :
    Except Fault (String × Cursor) := do
  let (header, c) ← header start c
  let c := c.skipWhile isBlank
  let c := if c.startsWith '#' then c.skipLine else c
  match c.peek with
  | some ch =>
      if !isBreak ch then
        throw (.syntactic .badBlockHeader c.mark (some (.blockScalar, start)))
  | none => pure ()
  let c := c.skipBreak
  if header.indentation = 0 then
    let (indent, breaks, c) ← findIndentation outer start c.rest c.mark 0 ""
    let (lines, c) ←
      blockLines folds indent start c.rest c.mark { Lines.none with emptyLines := breaks }
    return (lines.chomp header.chomping, c)
  else
    let indent := header.indentation + outer.toNat
    let (lines, c) ← blockLines folds indent start c.rest c.mark .none
    return (lines.chomp header.chomping, c)

end InstallerSetup.Yaml.Scalar
