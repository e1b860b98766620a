import GrantConfig.Proofs.Utf8Bytes
import GrantConfig.Uri.Basic

/-!
# Form encoding reads back

Names and values are encoded so that none of them can hold a separator. Decoding what was encoded
gives every text back, and pairs put behind a query are read behind the pairs of that query,
whether it is empty, ends in a separator or holds pieces of any kind.
-/

namespace GrantConfig.Uri

open GrantConfig.Text

namespace Percent

/-- An encoded byte, read after its percent sign. -/
theorem hexValue?_hexDigit {n : Nat} (h : n < 16) : hexValue? (hexDigit n) = some n := by
  have hall : ∀ m : Fin 16, hexValue? (hexDigit m) = some m.val := by decide
  exact hall ⟨n, h⟩

/-- Decoding resumes behind an encoded byte. -/
theorem decode_encodeByte (b : UInt8) (rest : List Char) :
    decode (encodeByte b ++ rest) = b :: decode rest := by
  have hbyte : b.toNat < 256 := b.toNat_lt
  rw [encodeByte, List.cons_append, List.cons_append, List.cons_append, List.nil_append, decode,
    hexValue?_hexDigit (by omega), hexValue?_hexDigit (by omega)]
  simp only
  rw [show 16 * (b.toNat / 16) + b.toNat % 16 = b.toNat by omega]
  simp

/-- Decoding resumes behind encoded bytes. -/
theorem decode_encodeBytes (bytes : List UInt8) (rest : List Char) :
    decode (bytes.flatMap encodeByte ++ rest) = bytes ++ decode rest := by
  induction bytes with
  | nil => rfl
  | cons b bytes ih =>
    rw [List.flatMap_cons, List.append_assoc, decode_encodeByte, ih, List.cons_append]

/-- Any character but a percent sign stands for its own bytes. -/
theorem decode_cons_of_ne {c : Char} (h : c ≠ '%') (rest : List Char) :
    decode (c :: rest) = Utf8.encodeChar c ++ decode rest := by
  rw [decode]
  exact fun _ _ _ hc _ => h hc

end Percent

namespace Form

/-- The bytes that an encoded name or value stands for. -/
def bytes (cs : List Char) : List UInt8 :=
  Percent.decode (cs.map fun c => if c = '+' then ' ' else c)

/-- To decode a text is to read its bytes, with replacements where they are no text. -/
theorem decodeText_eq (cs : List Char) :
    decodeText cs = String.ofList (Utf8.decodeLossy (bytes cs)) := rfl

/-- A digit is written as it is. -/
theorem isPlain_hexDigit {n : Nat} (h : n < 16) : isPlain (Percent.hexDigit n) = true := by
  have hall : ∀ m : Fin 16, isPlain (Percent.hexDigit m) = true := by decide
  exact hall ⟨n, h⟩

/-- No plain character has a meaning of its own in a query. -/
theorem isPlain_ne {c : Char} (h : isPlain c = true) : c ≠ '+' ∧ c ≠ '%' ∧ c ≠ '&' ∧ c ≠ '=' := by
  refine ⟨?_, ?_, ?_, ?_⟩ <;>
  · intro heq
    subst heq
    exact absurd h (by decide)

/-- An encoded byte is written with a percent sign and plain characters. -/
theorem mem_encodeByte {b : UInt8} {c : Char} (h : c ∈ Percent.encodeByte b) :
    c = '%' ∨ isPlain c = true := by
  have hbyte : b.toNat < 256 := b.toNat_lt
  simp only [Percent.encodeByte, List.mem_cons, List.not_mem_nil, or_false] at h
  rcases h with rfl | rfl | rfl
  · exact .inl rfl
  · exact .inr (isPlain_hexDigit (by omega))
  · exact .inr (isPlain_hexDigit (by omega))

/-- An encoded text holds plain characters, plus signs and percent signs only. -/
theorem mem_encodeText {s : String} {c : Char} (h : c ∈ encodeText s) :
    c = '+' ∨ c = '%' ∨ isPlain c = true := by
  obtain ⟨d, _, hd⟩ := List.mem_flatMap.mp h
  rw [encodeChar] at hd
  split at hd
  · exact .inl (List.mem_singleton.mp hd)
  rw [Percent.encodeChar] at hd
  split at hd
  · next hplain =>
    obtain rfl := List.mem_singleton.mp hd
    exact .inr (.inr hplain)
  · obtain ⟨b, _, hb⟩ := List.mem_flatMap.mp hd
    exact .inr (mem_encodeByte hb)

/-- An encoded text holds no separator, neither between pairs nor within them. -/
theorem not_mem_encodeText (s : String) : '&' ∉ encodeText s ∧ '=' ∉ encodeText s := by
  constructor <;>
  · intro h
    rcases mem_encodeText h with h | h | h <;> exact absurd h (by decide)

/-- The bytes of an encoded character are its own, whatever follows. -/
theorem bytes_encodeChar (c : Char) (rest : List Char) :
    bytes (encodeChar c ++ rest) = Utf8.encodeChar c ++ bytes rest := by
  rw [encodeChar, bytes, List.map_append]
  split
  · next hspace =>
    subst hspace
    exact Percent.decode_cons_of_ne (by decide) _
  rw [Percent.encodeChar]
  split
  · next hplain =>
    have hne := isPlain_ne hplain
    rw [List.map_singleton, if_neg hne.1, List.singleton_append,
      Percent.decode_cons_of_ne hne.2.1, bytes]
  · have hkept : ∀ d ∈ (Utf8.encodeChar c).flatMap Percent.encodeByte,
        (if d = '+' then ' ' else d) = d := by
      intro d hd
      obtain ⟨b, _, hb⟩ := List.mem_flatMap.mp hd
      refine if_neg ?_
      rcases mem_encodeByte hb with rfl | hplain
      · decide
      · exact (isPlain_ne hplain).1
    rw [List.map_congr_left hkept, List.map_id', Percent.decode_encodeBytes, bytes]

/-- Encoding writes the bytes of a text. -/
theorem bytes_encodeText (s : String) : bytes (encodeText s) = Utf8.encode s.toList := by
  rw [encodeText, Utf8.encode]
  generalize s.toList = cs
  induction cs with
  | nil => rfl
  | cons c cs ih => rw [List.flatMap_cons, List.flatMap_cons, bytes_encodeChar, ih]

/-- Decoding gives back every text that was encoded. -/
theorem decodeText_encodeText (s : String) : decodeText (encodeText s) = s := by
  rw [decodeText_eq, bytes_encodeText, Utf8.decodeLossy_encode, String.ofList_toList]

/-- A cut falls on the first separator behind characters that are none. -/
theorem cutFirst_append {sep : Char} {before : List Char} (h : sep ∉ before) (after : List Char) :
    cutFirst sep (before ++ sep :: after) = some (before, after) := by
  induction before with
  | nil => rw [List.nil_append, cutFirst, if_pos rfl]
  | cons c rest ih =>
    have hc : c ≠ sep := fun hc => h (hc ▸ List.mem_cons_self)
    rw [List.cons_append, cutFirst, if_neg hc, ih fun hmem => h (List.mem_cons_of_mem _ hmem)]
    rfl

/-- Decoding gives back every pair that was encoded. -/
theorem decodePair_encodePair (pair : String × String) : decodePair (encodePair pair) = pair := by
  rw [decodePair, encodePair, cutFirst_append (not_mem_encodeText pair.1).2]
  simp only [decodeText_encodeText]

/-- What separates pairs does not stand in one. -/
theorem not_mem_encodePair (pair : String × String) : '&' ∉ encodePair pair := by
  simp [encodePair, not_mem_encodeText]

/-- A pair is never written as nothing. -/
theorem encodePair_ne_nil (pair : String × String) : encodePair pair ≠ [] := by
  simp [encodePair]

/-- One pair more is read behind all others. -/
theorem pairs_append_singleton (query : List Char) (pair : String × String) :
    pairs (append query [pair]) = pairs query ++ [pair] := by
  have hlone : pieces (· = '&') (encodePair pair) = [encodePair pair] := by
    rw [pieces_eq_splitOnP]
    refine List.splitOnP_eq_singleton fun c hc => decide_eq_false ?_
    intro heq
    subst heq
    exact not_mem_encodePair pair hc
  have hkept : ((encodePair pair).isEmpty) = false := by simp [encodePair_ne_nil]
  rw [append, append]
  split
  · next hempty =>
    rw [List.isEmpty_iff.mp hempty, pairs, hlone]
    simp [hkept, decodePair_encodePair, pairs, pieces]
  · rw [pairs, pieces_eq_splitOnP, List.splitOnP_append_cons _ _ (by decide), ← pieces_eq_splitOnP,
      ← pieces_eq_splitOnP, hlone, List.filter_append, List.map_append, ← pairs]
    simp [hkept, decodePair_encodePair]

/-- Pairs put behind a query are read behind its own, in order and unchanged. -/
theorem pairs_append (query : List Char) (added : List (String × String)) :
    pairs (append query added) = pairs query ++ added := by
  induction added generalizing query with
  | nil => simp [append]
  | cons pair rest ih =>
    have hstep : append query (pair :: rest) = append (append query [pair]) rest := rfl
    rw [hstep, ih, pairs_append_singleton, List.append_assoc, List.singleton_append]

end Form

/-- Pairs put behind a URI are read behind those of its query. -/
theorem queryPairs_appendPairs (u : Uri) (added : List (String × String)) :
    (u.appendPairs added).queryPairs = u.queryPairs ++ added := by
  simp only [queryPairs, appendPairs, Option.getD_some, String.toList_ofList, Form.pairs_append]

end GrantConfig.Uri
