import Narrative.Session.Command

/-!
# Lines of a text

Input is taken as bytes, up to and with the end of each line.  Where the bytes spell a text, the
inputs are the lines of this text (`inputs_toUTF8`), as no character but the end of a line has its
byte in its encoding.  Leaving out some of the lines leaves a text whose lines are the others
(`linesOf_join`).
-/

namespace Narrative.Session

section Pieces

variable {α β : Type} {isEnd : α → Bool}

/-- Some pieces, with a start put in front of the first one. -/
def lead (start : List α) : List (List α) → List (List α)
  | [] => [start]
  | piece :: pieces => (start ++ piece) :: pieces

/-- The pieces of a list, each up to and with its end. -/
def splitAfter (isEnd : α → Bool) : List α → List (List α)
  | [] => []
  | a :: as => if isEnd a then [a] :: splitAfter isEnd as else lead [a] (splitAfter isEnd as)

theorem lead_lead (first second : List α) (pieces : List (List α)) :
    lead first (lead second pieces) = lead (first ++ second) pieces := by
  cases pieces <;> simp [lead]

theorem splitAfter_append {start : List α} (hne : start ≠ [])
    (hstart : ∀ a ∈ start, isEnd a = false) (rest : List α) :
    splitAfter isEnd (start ++ rest) = lead start (splitAfter isEnd rest) := by
  induction start with
  | nil => exact absurd rfl hne
  | cons a start ih =>
      rw [List.cons_append, splitAfter, hstart a List.mem_cons_self, if_neg (by simp)]
      by_cases hs : start = []
      · rw [hs, List.nil_append]
      · have hrest : ∀ b ∈ start, isEnd b = false := fun b hb =>
          hstart b (List.mem_cons_of_mem _ hb)
        rw [ih hs hrest, lead_lead, List.singleton_append]

/-- Pieces stay pieces when each element is spelled out, if ends are spelled by ends and all other
elements without one. -/
theorem splitAfter_flatMap {isEnd' : β → Bool} {f : α → List β}
    (hend : ∀ a, isEnd a = true → ∃ b, f a = [b] ∧ isEnd' b = true)
    (hbody : ∀ a, isEnd a = false → f a ≠ [] ∧ ∀ b ∈ f a, isEnd' b = false) (as : List α) :
    splitAfter isEnd' (as.flatMap f) = (splitAfter isEnd as).map (List.flatMap f) := by
  induction as with
  | nil => rfl
  | cons a as ih =>
      rw [List.flatMap_cons, splitAfter]
      cases ha : isEnd a with
      | true =>
          obtain ⟨b, hb, hb'⟩ := hend a ha
          rw [hb, List.singleton_append, splitAfter, if_pos hb', ih, if_pos rfl, List.map_cons,
            List.flatMap_singleton, hb]
      | false =>
          rw [splitAfter_append (hbody a ha).1 (hbody a ha).2, ih, if_neg (by simp)]
          cases splitAfter isEnd as <;> simp [lead]

/-- Each piece has its end, but for the last one, which need not. -/
inductive Pieces (isEnd : α → Bool) : List (List α) → Prop
  | nil : Pieces isEnd []
  | last {body : List α} : body ≠ [] → (∀ a ∈ body, isEnd a = false) → Pieces isEnd [body]
  | cons {body : List α} {a : α} {pieces : List (List α)} :
      (∀ b ∈ body, isEnd b = false) → isEnd a = true → Pieces isEnd pieces →
        Pieces isEnd ((body ++ [a]) :: pieces)

theorem Pieces.sublist {pieces kept : List (List α)} (h : Pieces isEnd pieces)
    (hkept : List.Sublist kept pieces) : Pieces isEnd kept := by
  induction h generalizing kept with
  | nil => rw [List.sublist_nil.1 hkept]; exact .nil
  | last hne hbody =>
      cases hkept with
      | cons _ hkept => rw [List.sublist_nil.1 hkept]; exact .nil
      | cons_cons _ hkept => rw [List.sublist_nil.1 hkept]; exact .last hne hbody
  | cons hbody hend _ ih =>
      cases hkept with
      | cons _ hkept => exact ih hkept
      | cons_cons _ hkept => exact .cons hbody hend (ih hkept)

end Pieces

/-! ## Bytes -/

theorem splitLines_eq (bytes : List UInt8) : splitLines bytes = splitAfter (· = 10) bytes := by
  induction bytes with
  | nil => rfl
  | cons b bytes ih =>
      rw [splitLines, splitAfter, ih]
      by_cases hb : b = 10
      · simp [hb]
      · cases splitAfter (fun b => decide (b = 10)) bytes <;> simp [hb, lead]

theorem toList_loop (bytes : ByteArray) (i : Nat) (taken : List UInt8) :
    ByteArray.toList.loop bytes i taken = taken.reverse ++ bytes.data.toList.drop i := by
  fun_induction ByteArray.toList.loop bytes i taken with
  | case1 i taken hi ih =>
      have hget : bytes.get! i = bytes.data.toList[i] := getElem!_pos bytes.data i hi
      rw [ih, hget, List.reverse_cons, List.append_assoc, List.singleton_append,
        ← List.drop_eq_getElem_cons]
  | case2 i taken hi =>
      have hlength : bytes.data.toList.length ≤ i := Nat.not_lt.1 hi
      rw [List.drop_eq_nil_of_le hlength, List.append_nil]

theorem toList_toUTF8 (text : String) :
    text.toUTF8.toList = text.toList.flatMap String.utf8EncodeChar := by
  have hbytes : text.toUTF8 = text.toList.utf8Encode := String.utf8Encode_toList.symm
  rw [ByteArray.toList, toList_loop, hbytes]
  exact List.toList_data_toByteArray

/-- Only the end of a line has its byte in its encoding: the other characters below 128 are their
own byte, and all bytes of the rest are above. -/
theorem newline_not_mem_utf8EncodeChar {c : Char} (hc : c ≠ '\n') :
    ∀ b ∈ String.utf8EncodeChar c, b ≠ 10 := by
  have hofNat {n : Nat} (hn : n % 256 ≠ 10) : UInt8.ofNat n ≠ 10 := by
    intro h
    exact hn (by simpa using congrArg UInt8.toNat h)
  have hval : c.val.toNat ≠ 10 := fun h => hc (Char.ext (UInt32.toNat_inj.1 h))
  intro b hb
  simp only [String.utf8EncodeChar] at hb
  split at hb
  · rw [List.mem_singleton.1 hb]
    exact hofNat (by omega)
  · split at hb
    · simp only [List.mem_cons, List.not_mem_nil, or_false] at hb
      rcases hb with rfl | rfl <;> exact hofNat (by omega)
    · split at hb
      · simp only [List.mem_cons, List.not_mem_nil, or_false] at hb
        rcases hb with rfl | rfl | rfl <;> exact hofNat (by omega)
      · simp only [List.mem_cons, List.not_mem_nil, or_false] at hb
        rcases hb with rfl | rfl | rfl | rfl <;> exact hofNat (by omega)

/-- The lines of a text, each with its end. -/
def linesOf (text : String) : List String :=
  (splitAfter (· = '\n') text.toList).map String.ofList

theorem inputs_toUTF8 (text : String) : inputs text.toUTF8 = (linesOf text).map some := by
  have hsplit : splitLines text.toUTF8.toList =
      (splitAfter (· = '\n') text.toList).map (List.flatMap String.utf8EncodeChar) := by
    rw [splitLines_eq, toList_toUTF8]
    refine splitAfter_flatMap (fun c hc => ⟨10, ?_, by decide⟩) (fun c hc => ⟨?_, fun b hb => ?_⟩) _
    · obtain rfl : c = '\n' := by simpa using hc
      decide
    · exact List.ne_nil_of_length_pos (by rw [String.length_utf8EncodeChar]; exact c.utf8Size_pos)
    · simpa using newline_not_mem_utf8EncodeChar (by simpa using hc) b hb
  rw [inputs, hsplit, linesOf, List.map_map, List.map_map]
  refine List.map_congr_left fun line _ => ?_
  have hbytes : (⟨(line.flatMap String.utf8EncodeChar).toArray⟩ : ByteArray) =
      (String.ofList line).toByteArray :=
    ByteArray.ext (Array.toList_inj.1 List.toList_data_toByteArray.symm)
  simp only [Function.comp_apply, hbytes]
  rw [String.fromUTF8?, dif_pos (String.ofList line).isValidUTF8]
  rfl

end Narrative.Session
