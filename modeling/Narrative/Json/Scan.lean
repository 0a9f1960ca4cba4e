import Narrative.Json.Refusal

/-!
# Scanning

A scanner takes bytes from the front of a text.  Where it refuses, the bytes that are still unread
say where that was.  It knows how long the whole text is, which bounds every loop.
-/

namespace Narrative.Json

/-- A text as its UTF-8 bytes. -/
abbrev Bytes := List UInt8

/-- Why scanning stopped, and what was unread there. -/
structure Fault where
  cause : Cause
  unread : Bytes

/-- A scanner: it knows the length of the text and holds the unread bytes. -/
abbrev Scan := ReaderT Nat (StateT Bytes (Except Fault))

namespace Scan

variable {α σ : Type}

/-- Refuses what has been read. -/
def refuse (cause : Cause) : Scan α := fun _ s => .error ⟨cause, s⟩

/-- Refuses the next byte, which counts as read. -/
def refuseNext (cause : Cause) : Scan α := fun _ s => .error ⟨cause, s.tail⟩

/-- The next byte, as the character of that code. -/
def peek : Scan (Option Char) := fun _ s => .ok (s.head?.map Char.ofUInt8, s)

/-- Takes the next byte. -/
def nextByte : Scan (Option UInt8) := fun _ s => .ok (s.head?, s.tail)

/-- Takes the next byte, as the character of that code. -/
def next : Scan (Option Char) := fun _ s => .ok (s.head?.map Char.ofUInt8, s.tail)

/-- Passes over the next byte. -/
def skip : Scan Unit := fun _ s => .ok ((), s.tail)

/-- Takes the next byte if it is the given character. -/
def accept (c : Char) : Scan Bool := fun _ s =>
  if s.head?.map Char.ofUInt8 = some c then .ok (true, s.tail) else .ok (false, s)

/-- The four bytes between tokens that mean nothing. -/
def isSpace (b : UInt8) : Bool := b == 32 || b == 10 || b == 9 || b == 13

/-- Passes over space and gives the next byte. -/
def token : Scan (Option Char) := fun _ s =>
  let rest := s.dropWhile isSpace
  .ok (rest.head?.map Char.ofUInt8, rest)

/-- Takes the digits in front. -/
def digits : Scan (List Nat) := fun _ s =>
  let isDigit (b : UInt8) : Bool := 48 ≤ b && b ≤ 57
  .ok ((s.takeWhile isDigit).map (·.toNat - 48), s.dropWhile isDigit)

/-- Whether a loop goes on, and with what. -/
inductive Turn (σ α : Type) where
  | again (state : σ)
  | done (value : α)

/-- Takes turns until one is the last, as many as the bound at most. -/
def turns (turn : σ → Scan (Turn σ α)) : Nat → σ → Scan α
  | 0, _ => refuse .endInValue
  | bound + 1, state => do
    match ← turn state with
    | .again state => turns turn bound state
    | .done value => pure value

/-- Takes turns, each of which takes a byte or is the last: so there are no more of them than the
text is long, and one. -/
def loop (turn : σ → Scan (Turn σ α)) (state : σ) : Scan α := do
  turns turn ((← read) + 1) state

/-- Takes the rest of a word whose first letter has been taken. -/
def word : List Char → Scan Unit
  | [] => pure ()
  | c :: cs => do
    match ← next with
    | none => refuse .endInValue
    | some d => if d = c then word cs else refuse .expectedIdent

/-- Runs a scanner on a whole text. -/
def run (scan : Scan α) (text : Bytes) : Except Refusal α :=
  match scan text.length text with
  | .ok (value, _) => .ok value
  | .error fault =>
    .error ⟨fault.cause, Place.after (text.take (text.length - fault.unread.length))⟩

/-- Nothing but space is left. -/
def finish : Scan Unit := do
  match ← token with
  | none => pure ()
  | some _ => refuseNext .trailingCharacters

end Scan

end Narrative.Json
