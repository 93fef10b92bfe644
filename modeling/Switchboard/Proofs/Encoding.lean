import Mathlib.Tactic
import Switchboard.Json.Parser

/-!
# Texts as bytes

The bytes of a text, and strings among them: a string that was written is read back, whatever
follows it.
-/

namespace Switchboard.Json

private theorem toList_loop (bytes : ByteArray) (i : Nat) (taken : List UInt8) :
    ByteArray.toList.loop bytes i taken = taken.reverse ++ bytes.data.toList.drop i := by
  induction i, taken using ByteArray.toList.loop.induct bytes with
  | case1 i taken hlt ih =>
    have hi : i < bytes.data.toList.length := by simpa using hlt
    have hget : bytes.get! i = bytes.data.toList[i] := getElem!_pos bytes.data i hlt
    rw [ByteArray.toList.loop, if_pos hlt, ih, List.drop_eq_getElem_cons hi, hget]
    simp
  | case2 i taken hge =>
    have hi : bytes.data.toList.length ≤ i := by simpa using hge
    rw [ByteArray.toList.loop, if_neg hge, List.drop_eq_nil_of_le hi, List.append_nil]

def encode (chars : List Char) : List UInt8 :=
  chars.flatMap String.utf8EncodeChar

theorem encode_cons (c : Char) (chars : List Char) :
    encode (c :: chars) = String.utf8EncodeChar c ++ encode chars :=
  List.flatMap_cons

theorem encode_append (first second : List Char) :
    encode (first ++ second) = encode first ++ encode second :=
  List.flatMap_append

theorem toUTF8_ofList (chars : List Char) : (String.ofList chars).toUTF8.toList = encode chars := by
  rw [ByteArray.toList, toList_loop, List.reverse_nil, List.nil_append, List.drop_zero]
  exact List.toList_data_toByteArray

namespace Text

theorem ofBytes?_encode (chars : List Char) :
    ofBytes? (encode chars) = some (String.ofList chars) := by
  have hbytes : ByteArray.mk (encode chars).toArray = chars.utf8Encode := by
    rw [List.utf8Encode]
    apply ByteArray.ext
    simp [encode]
  have hvalid : chars.utf8Encode.IsValidUTF8 := ByteArray.isValidUTF8_utf8Encode
  rw [ofBytes?, hbytes, String.fromUTF8?, dif_pos hvalid]
  rfl

structure Plain (b : UInt8) : Prop where
  notQuote : b ≠ 34
  notBackslash : b ≠ 92
  notControl : ¬b < 32

theorem Plain.ofNat {n : Nat} (hbyte : n < 256) (hquote : n ≠ 34) (hbackslash : n ≠ 92)
    (hcontrol : 32 ≤ n) : Plain (UInt8.ofNat n) := by
  have hn : (UInt8.ofNat n).toNat = n := by
    rw [UInt8.toNat_ofNat', Nat.mod_eq_of_lt hbyte]
  constructor
  · intro h
    exact hquote (hn ▸ congrArg UInt8.toNat h)
  · intro h
    exact hbackslash (hn ▸ congrArg UInt8.toNat h)
  · rw [UInt8.lt_iff_toNat_lt, hn]
    exact Nat.not_lt.2 hcontrol

theorem plain_of_mem_utf8EncodeChar {c : Char} (hquote : c ≠ '"') (hbackslash : c ≠ '\\')
    (hc : 0x20 ≤ c.toNat) : ∀ b ∈ String.utf8EncodeChar c, Plain b := by
  have hne : ∀ other : Char, c ≠ other → c.val.toNat ≠ other.val.toNat := fun other hother h =>
    hother (Char.ext (UInt32.toNat_inj.1 h))
  have hquote : c.val.toNat ≠ 34 := hne '"' hquote
  have hbackslash : c.val.toNat ≠ 92 := hne '\\' hbackslash
  have hc : 32 ≤ c.val.toNat := hc
  unfold String.utf8EncodeChar
  dsimp only
  -- one byte below 128, or up to four from 128 on
  split_ifs <;>
    simp only [List.forall_mem_cons, List.not_mem_nil, false_imp_iff, implies_true, and_true]
  · exact Plain.ofNat (by omega) hquote hbackslash hc
  · constructor <;> apply Plain.ofNat <;> omega
  · refine ⟨?_, ?_, ?_⟩ <;> apply Plain.ofNat <;> omega
  · refine ⟨?_, ?_, ?_, ?_⟩ <;> apply Plain.ofNat <;> omega

inductive NeedsEscape : Char → Prop
  | quote : NeedsEscape '"'
  | backslash : NeedsEscape '\\'
  | control (n : Nat) : n < 0x20 → NeedsEscape (Char.ofNat n)

theorem encode_escape_of_plain {c : Char} (h : ¬NeedsEscape c) :
    encode (escape c) = String.utf8EncodeChar c ∧ ∀ b ∈ String.utf8EncodeChar c, Plain b := by
  have hquote : c ≠ '"' := fun heq => h (heq ▸ .quote)
  have hbackslash : c ≠ '\\' := fun heq => h (heq ▸ .backslash)
  have hcontrol : 0x20 ≤ c.toNat := by
    by_contra hlt
    exact h (Char.ofNat_toNat c ▸ .control c.toNat (Nat.lt_of_not_le hlt))
  refine ⟨?_, plain_of_mem_utf8EncodeChar hquote hbackslash hcontrol⟩
  rw [escape, if_neg hquote, if_neg hbackslash, if_pos hcontrol, encode, List.flatMap_singleton]

/-- What goes over the text of a string: over a byte that stands for itself in one step, and over an
escape in one. -/
structure Scans (scan : Nat → List UInt8 → List UInt8 → ρ) : Prop where
  plain : ∀ {b}, Plain b → ∀ fuel taken rest,
    scan (fuel + 1) taken (b :: rest) = scan fuel (b :: taken) rest
  escaped : ∀ {c}, NeedsEscape c → ∀ fuel taken rest,
    scan (fuel + 1) taken (encode (escape c) ++ rest) =
      scan fuel ((String.utf8EncodeChar c).reverse ++ taken) rest

namespace Scans

variable {scan : Nat → List UInt8 → List UInt8 → ρ}

theorem plains (h : Scans scan) {plain : List UInt8} (hplain : ∀ b ∈ plain, Plain b) (fuel : Nat)
    (taken rest : List UInt8) :
    scan (plain.length + fuel) taken (plain ++ rest) =
      scan fuel (plain.reverse ++ taken) rest := by
  induction plain generalizing taken with
  | nil => simp
  | cons b plain ih =>
    obtain ⟨hb, hplain⟩ := List.forall_mem_cons.1 hplain
    rw [List.length_cons, Nat.add_right_comm, List.cons_append, h.plain hb, ih hplain,
      List.reverse_cons, List.append_assoc, List.singleton_append]

theorem char (h : Scans scan) (c : Char) (fuel : Nat)
    (hfuel : (encode (escape c)).length ≤ fuel) (taken rest : List UInt8) :
    ∃ left, fuel ≤ left + (encode (escape c)).length ∧
      scan fuel taken (encode (escape c) ++ rest) =
        scan left ((String.utf8EncodeChar c).reverse ++ taken) rest := by
  by_cases hc : NeedsEscape c
  · have hpositive : 0 < (encode (escape c)).length := by
      cases hc with
      | quote | backslash => decide
      | control n hn => interval_cases n <;> decide
    obtain ⟨left, rfl⟩ := Nat.exists_eq_add_of_le' (Nat.le_trans hpositive hfuel)
    exact ⟨left, by omega, h.escaped hc left taken rest⟩
  · obtain ⟨hwritten, hplain⟩ := encode_escape_of_plain hc
    rw [hwritten] at hfuel ⊢
    obtain ⟨left, rfl⟩ := Nat.exists_eq_add_of_le hfuel
    exact ⟨left, by omega, h.plains hplain left taken rest⟩

theorem chars (h : Scans scan) (chars : List Char) (fuel : Nat)
    (hfuel : (encode (chars.flatMap escape)).length < fuel) (taken rest : List UInt8) :
    ∃ left, scan fuel taken (encode (chars.flatMap escape) ++ rest) =
      scan (left + 1) ((encode chars).reverse ++ taken) rest := by
  induction chars generalizing fuel taken with
  | nil =>
    obtain ⟨fuel, rfl⟩ := Nat.exists_eq_add_one_of_ne_zero (Nat.ne_zero_of_lt hfuel)
    exact ⟨fuel, rfl⟩
  | cons c chars ih =>
    rw [List.flatMap_cons, encode_append] at hfuel ⊢
    rw [List.length_append] at hfuel
    obtain ⟨left, hleft, hstep⟩ :=
      h.char c fuel (by omega) taken (encode (chars.flatMap escape) ++ rest)
    obtain ⟨last, hlast⟩ := ih left (by omega) ((String.utf8EncodeChar c).reverse ++ taken)
    refine ⟨last, ?_⟩
    rw [List.append_assoc, hstep, hlast, encode_cons, List.reverse_append, List.append_assoc]

end Scans

theorem scans_takeBytes : Scans takeBytes := by
  constructor
  · intro b hb fuel taken rest
    rw [takeBytes, if_neg hb.notQuote, if_neg hb.notBackslash, if_neg hb.notControl]
  · intro c hc fuel taken rest
    cases hc with
    | quote | backslash => rfl
    | control n hn => interval_cases n <;> rfl

end Text

/-- A string that was written is read back, the closing quote being the first of those that are not
escaped. -/
theorem readString_escapes (chars : List Char) (rest : List UInt8) :
    readString (encode (chars.flatMap escape) ++ 34 :: rest) = .ok (String.ofList chars, rest) := by
  obtain ⟨left, htake⟩ := Text.scans_takeBytes.chars chars
    ((encode (chars.flatMap escape) ++ 34 :: rest).length + 1)
    (by rw [List.length_append]; omega) [] (34 :: rest)
  rw [List.append_nil] at htake
  have hquote : Text.takeBytes (left + 1) (encode chars).reverse (34 :: rest) =
      .ok ((encode chars).reverse, rest) := rfl
  simp only [readString, htake, hquote, Except.bind, bind, List.reverse_reverse,
    Text.ofBytes?_encode]

theorem encode_stringText (chars : List Char) :
    encode (stringText chars) = 34 :: (encode (chars.flatMap escape) ++ [34]) := by
  rw [stringText, encode_cons, encode_append]
  rfl

end Switchboard.Json
