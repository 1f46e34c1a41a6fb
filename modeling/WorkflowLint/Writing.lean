import WorkflowLint.Run

/-!
# Writing — commands as procedures on a writer

A command may also say what it has to say step by step, in many small writes to a writer. The writer
takes as much of each as it likes, so what is left of it is written again, and a write that fails
ends the command. A procedure of this kind could go on after a failure, or write something twice;
that it does neither is a matter of proof. This module defines

* `Writer` and `Output` — what is written to, and what it has taken;
* `Writing` — procedures that write, and the loop that writes all of some octets;
* for both forms of a report, and for each command, the procedure that writes it.
-/

namespace WorkflowLint

/-- What is written to. Asked to take octets, it says how many of them it has taken, or why it takes
none. A writer that is only interrupted is asked again, and that is part of the writer here. -/
abbrev Writer (σ : Type) := List UInt8 → σ → Except String Nat × σ

/-- A writer in use. -/
structure Output (σ : Type) where
  /-- All octets that the writer has taken. -/
  taken : List UInt8
  writer : σ

/-- A procedure that writes. What was taken before a failure stays taken. -/
abbrev Writing (σ α : Type) := ExceptT String (StateM (Output σ)) α

namespace Writing

/-- Why a writer fails that takes nothing of something. -/
def stuckReason : String :=
  "failed to write whole buffer"

variable {σ : Type} (w : Writer σ)

/-- Writes octets until none are left. -/
def loop : List UInt8 → Output σ → Except String Unit × Output σ
  | [], out => (.ok (), out)
  | octet :: rest, out =>
    match w (octet :: rest) out.writer with
    | (.error reason, s) => (.error reason, ⟨out.taken, s⟩)
    | (.ok 0, s) => (.error stuckReason, ⟨out.taken, s⟩)
    -- the rest is written again, behind what was taken
    | (.ok (n + 1), s) => loop (rest.drop n) ⟨out.taken ++ octet :: rest.take n, s⟩
termination_by octets => octets.length
decreasing_by
  rw [List.length_drop, List.length_cons]
  omega

def all (octets : List UInt8) : Writing σ Unit :=
  ExceptT.mk (loop w octets)

/-- Writes texts one after another. -/
def put (texts : List String) : Writing σ Unit :=
  texts.forM fun text => all w (Delivery.octets text)

/-- Writes texts and ends the line. -/
def line (texts : List String) : Writing σ Unit :=
  put w (texts ++ ["\n"])

end Writing

open Writing (put line)

variable {σ : Type} (w : Writer σ)

/-! ## Reports for readers -/

/-- The parts in which a styled text is written. -/
def Style.parts (style : Style) (text : String) : List String :=
  if style.codes.isEmpty then [text] else style.codes.map sequence ++ [text, sequence 0]

namespace Report

def writeBlock (title : String) (mark : List String) (findings : Findings) : Writing σ Unit := do
  if findings.isEmpty then
    return ()
  line w []
  line w [title, " (", toString findings.length, "):"]
  findings.forM fun d => line w (["  "] ++ mark ++ ["  ", d.message])

def writeHuman (palette : Palette) (r : Report) : Writing σ Unit := do
  line w ["Validating: ", r.location]
  line w [rule]
  writeBlock w "Warnings" (palette.warning.parts warningMark) r.findings.warnings
  writeBlock w "Errors" (palette.error.parts errorMark) r.findings.errors
  line w []
  if r.passed then
    line w (palette.passed.parts "RESULT: PASS" ++
      [" (0 errors, ", toString r.findings.warnings.length, " warning(s))"])
  else
    line w (palette.failed.parts "RESULT: FAIL" ++
      [" (", toString r.findings.errors.length, " error(s), ",
        toString r.findings.warnings.length, " warning(s))"])

end Report

/-! ## Reports for programs -/

namespace Json

/-- Writes characters one after another. -/
def putChars (cs : List Char) : Writing σ Unit :=
  cs.forM fun c => Writing.all w (String.utf8EncodeChar c)

def putString (s : String) : Writing σ Unit := do
  put w ["\""]
  s.toList.forM fun c => putChars w (escape c)
  put w ["\""]

def putNewline (level : Nat) : Writing σ Unit := do
  put w ["\n"]
  (List.replicate level "  ").forM fun indent => put w [indent]

mutual

def Value.put (level : Nat) : Value → Writing σ Unit
  | .string s => putString w s
  | .number n => Writing.put w [toString n]
  | .bool b => Writing.put w [toString b]
  | .array [] => Writing.put w ["[", "]"]
  | .array (v :: items) => do
    Writing.put w ["["]
    putNewline w (level + 1)
    v.put (level + 1)
    putItems level items
  | .object [] => Writing.put w ["\x7b", "\x7d"]
  | .object ((key, v) :: members) => do
    Writing.put w ["\x7b"]
    putNewline w (level + 1)
    putString w key
    Writing.put w [": "]
    v.put (level + 1)
    putMembers level members

/-- Writes the items after the first one, and the closing bracket. -/
def putItems (level : Nat) : List Value → Writing σ Unit
  | [] => do
    putNewline w level
    Writing.put w ["]"]
  | v :: items => do
    Writing.put w [","]
    putNewline w (level + 1)
    v.put (level + 1)
    putItems level items

/-- Writes the members after the first one, and the closing brace. -/
def putMembers (level : Nat) : List (String × Value) → Writing σ Unit
  | [] => do
    putNewline w level
    Writing.put w ["\x7d"]
  | (key, v) :: members => do
    Writing.put w [","]
    putNewline w (level + 1)
    putString w key
    Writing.put w [": "]
    v.put (level + 1)
    putMembers level members

end

end Json

/-- Writes a report in a form. -/
def Report.write (palette : Palette) (r : Report) : Format → Writing σ Unit
  | .human => writeHuman w palette r
  | .json => do
    r.toJson.put w 0
    line w []

/-! ## Commands -/

/-- A command that is carried out on a writer. -/
abbrev Execution (σ α : Type) := ExceptT Failure (StateM (Output σ)) α

namespace Check

/-- Carries out a check over fixed contents of the files, and says whether it passes. -/
def execute (read : String → Contents) (palette : Palette) (root : String) (o : CheckOptions) :
    Execution σ Bool := do
  let p ← ExceptT.mk
    (pure (loadPolicy (m := Id) (fun location => pure (read location)) root o).run)
  let location := workflowLocation root o.file p
  let r := report o location (Validation.ofContents .builtins p location (read location))
  (r.write w palette o.format).adapt .unwritable
  return r.passed

end Check

/-- Carries out the listing of the rules. -/
def Rules.execute : Execution σ Bool := do
  ExceptT.adapt .unwritable <|
    (Registry.builtins.zipIdx).forM fun r =>
      Writing.line w [Text.padLeft 2 (toString (r.2 + 1)), ". ", Text.padRight 22 r.1.id, " ",
        Text.padRight 8 r.1.severity.name, " ", r.1.description]
  return true

/-- Carries out a command. Without a command, that is a check. -/
def Command.execute (read : String → Contents) (palette : Palette) (root : String) :
    Option Command → Execution σ Bool
  | some (.check o) => Check.execute w read palette root o
  | some .rules => Rules.execute w
  | none => Check.execute w read palette root .standard

end WorkflowLint
