/-!
# Delivery

What becomes of a text that is written in pieces to something that may run out of room. Pieces
are taken one after another; of the first one that does not fit, as much is taken as there is
room for, and nothing after it.
-/

namespace WorkflowLint

/-- How many octets there is room for; without a number, any. -/
abbrev Room := Option Nat

/-- What was taken of a text. -/
structure Delivery where
  accepted : List UInt8
  /-- All of the text was taken. -/
  complete : Bool
  deriving DecidableEq, Repr

namespace Delivery

def octets (text : String) : List UInt8 :=
  text.toList.flatMap String.utf8EncodeChar

/-- Writes pieces where there is room for any number of octets. -/
def unlimited (pieces : List String) : Delivery :=
  ⟨pieces.flatMap octets, true⟩

/-- Writes pieces where there is room for a number of octets. -/
def limited : Nat → List String → Delivery
  | _, [] => ⟨[], true⟩
  | room, piece :: rest =>
    let os := octets piece
    if os.length ≤ room then
      let later := limited (room - os.length) rest
      ⟨os ++ later.accepted, later.complete⟩
    -- of the piece that does not fit, a part is taken all the same
    else ⟨os.take room, false⟩

/-- What is taken is the beginning of the whole text, as far as there is room. -/
theorem accepted_limited (room : Nat) (pieces : List String) :
    (limited room pieces).accepted = (pieces.flatMap octets).take room := by
  induction pieces generalizing room with
  | nil => simp [limited]
  | cons piece rest ih =>
    by_cases h : (octets piece).length ≤ room
    · simp [limited, h, ih, List.take_append, List.take_of_length_le]
    · have h' : room - (octets piece).length = 0 := by omega
      simp [limited, h, h', List.take_append]

/-- The whole text is taken just if there is room for all of it. -/
theorem complete_limited (room : Nat) (pieces : List String) :
    (limited room pieces).complete = true ↔ (pieces.flatMap octets).length ≤ room := by
  induction pieces generalizing room with
  | nil => simp [limited]
  | cons piece rest ih =>
    rw [List.flatMap_cons, List.length_append]
    by_cases h : (octets piece).length ≤ room
    · simp only [limited, h, if_true, ih]
      omega
    · simp only [limited, h, if_false, Bool.false_eq_true, false_iff]
      omega

/-- Writes pieces. -/
def run (room : Room) (pieces : List String) : Delivery :=
  match room with
  | none => unlimited pieces
  | some n => limited n pieces

/-- Why a text was not taken whole. -/
def fullReason : String :=
  "writer is full"

end Delivery

end WorkflowLint
