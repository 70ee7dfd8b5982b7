import TableQuery.Proofs.Text.Bytes
import TableQuery.Proofs.Text.Slices

/-!
# Characters among the bytes of a text

A program that reads a text byte by byte compares single bytes with ASCII characters.  It finds what
is there: an ASCII character is a single byte, and no byte of any other character has the code of
one.  So a byte may be anywhere inside a character, but a byte that is taken for an ASCII
character stands between two places of the text.

* `encoded` — the bytes of characters;
* `signAt?` — the byte at a number, read as the character of its code;
* `sign_of_mem` — a byte of a character is in a class of ASCII characters just if the character is;
* `IsPart`, `slice?_of_append`, `slice?_to_end` — a part of a text between two places, and what
  stands there;
* `not_isPlace_inside` — there is no place inside a character.
-/

namespace TableQuery.Text

/-! ## Bytes of characters -/

/-- The bytes of characters in UTF-8. -/
def encoded (cs : List Char) : List UInt8 := cs.flatMap String.utf8EncodeChar

theorem bytes_eq_encoded (s : String) : bytes s = encoded s.toList := rfl

theorem encoded_cons (c : Char) (cs : List Char) :
    encoded (c :: cs) = String.utf8EncodeChar c ++ encoded cs := List.flatMap_cons

theorem encoded_append (cs cs' : List Char) : encoded (cs ++ cs') = encoded cs ++ encoded cs' :=
  List.flatMap_append

theorem length_encoded (cs : List Char) :
    (encoded cs).length = (String.ofList cs).utf8ByteSize := by
  induction cs with
  | nil => rfl
  | cons c cs ih =>
    rw [encoded_cons, List.length_append, String.length_utf8EncodeChar, ih, String.ofList_cons,
      String.utf8ByteSize_append, String.utf8ByteSize_singleton]

/-! ## ASCII characters -/

/-- A class of characters that are all ASCII characters. -/
def AsciiOnly (P : Char → Bool) : Prop := ∀ c, P c = true → c.toNat < 128

theorem asciiOnly_beq {w : Char} (h : w.toNat < 128) : AsciiOnly (· == w) := by
  intro c hc
  rw [beq_iff_eq] at hc
  exact hc ▸ h

/-- An ASCII character is the byte of its code. -/
theorem utf8EncodeChar_of_ascii {c : Char} (h : c.toNat < 128) :
    ∃ b, String.utf8EncodeChar c = [b] ∧ Char.ofUInt8 b = c := by
  have hcode : c.val.toNat ≤ 0x7f := Nat.le_of_lt_succ h
  refine ⟨UInt8.ofNat c.val.toNat, by rw [String.utf8EncodeChar, if_pos hcode], ?_⟩
  have hbyte : (UInt8.ofNat c.val.toNat).toNat = c.val.toNat :=
    UInt8.toNat_ofNat_of_lt' (Nat.lt_of_le_of_lt hcode (by decide))
  refine Char.ext (UInt32.toNat_inj.1 ?_)
  exact hbyte

/-- A character of more than one byte is no ASCII character. -/
theorem not_ascii_of_utf8Size {c : Char} (h : 1 < c.utf8Size) : 128 ≤ c.toNat := by
  rw [← Nat.not_lt]
  intro hc
  obtain ⟨b, hbytes, -⟩ := utf8EncodeChar_of_ascii hc
  rw [← String.length_utf8EncodeChar, hbytes, List.length_singleton] at h
  exact Nat.lt_irrefl 1 h

/-- **No byte of another character has the code of an ASCII character.** -/
theorem le_of_mem_utf8EncodeChar {c : Char} {b : UInt8} (h : 128 ≤ c.toNat)
    (hb : b ∈ String.utf8EncodeChar c) : 128 ≤ (Char.ofUInt8 b).toNat := by
  have hcode : ¬c.val.toNat ≤ 0x7f := Nat.not_le.2 h
  have hbyte (n : Nat) (hn : 128 ≤ n ∧ n < 256) : 128 ≤ (Char.ofUInt8 (UInt8.ofNat n)).toNat := by
    have hn' : (UInt8.ofNat n).toNat = n := UInt8.toNat_ofNat_of_lt' hn.2
    exact Nat.le_trans hn.1 (Nat.le_of_eq hn'.symm)
  rw [String.utf8EncodeChar, if_neg hcode] at hb
  split_ifs at hb
  all_goals simp only [List.mem_cons, List.not_mem_nil, or_false] at hb
  · rcases hb with rfl | rfl <;> exact hbyte _ (by omega)
  · rcases hb with rfl | rfl | rfl <;> exact hbyte _ (by omega)
  · rcases hb with rfl | rfl | rfl | rfl <;> exact hbyte _ (by omega)

/-- **A byte of a character is in a class of ASCII characters just if the character is.** -/
theorem sign_of_mem {P : Char → Bool} (hP : AsciiOnly P) {c : Char} {b : UInt8}
    (hb : b ∈ String.utf8EncodeChar c) : P (Char.ofUInt8 b) = P c := by
  rcases Nat.lt_or_ge c.toNat 128 with hc | hc
  · obtain ⟨b', hbytes, hsign⟩ := utf8EncodeChar_of_ascii hc
    rw [hbytes, List.mem_singleton] at hb
    rw [hb, hsign]
  · have hout (d : Char) (hd : 128 ≤ d.toNat) : P d = false :=
      Bool.eq_false_iff.2 fun h => Nat.not_lt.2 hd (hP d h)
    rw [hout c hc, hout _ (le_of_mem_utf8EncodeChar hc hb)]

/-- An ASCII character is a single byte. -/
theorem encoded_cons_of_ascii {c : Char} (hc : c.toNat < 128) (cs : List Char) :
    ∃ b, Char.ofUInt8 b = c ∧ encoded (c :: cs) = b :: encoded cs := by
  obtain ⟨b, hbytes, hsign⟩ := utf8EncodeChar_of_ascii hc
  exact ⟨b, hsign, by rw [encoded_cons, hbytes, List.singleton_append]⟩

theorem length_encoded_cons_of_ascii {c : Char} (hc : c.toNat < 128) (cs : List Char) :
    (encoded (c :: cs)).length = (encoded cs).length + 1 := by
  obtain ⟨b, -, hbytes⟩ := encoded_cons_of_ascii hc cs
  rw [hbytes, List.length_cons]

/-- Behind an ASCII character the number of bytes is greater by one. -/
theorem length_encoded_concat {c : Char} (hc : c.toNat < 128) (before : List Char) :
    (encoded (before ++ [c])).length = (encoded before).length + 1 := by
  rw [encoded_append, List.length_append, length_encoded_cons_of_ascii hc]
  rfl

/-! ## Bytes at a number -/

/-- The byte at a number, read as the character of its code. -/
def signAt? (bytes : List UInt8) (i : Nat) : Option Char := bytes[i]?.map Char.ofUInt8

theorem signAt?_append (front back : List UInt8) (k : Nat) :
    signAt? (front ++ back) (front.length + k) = signAt? back k := by
  rw [signAt?, List.getElem?_append_right (Nat.le_add_right _ _), Nat.add_sub_cancel_left, signAt?]

theorem signAt?_append_cons (front back : List UInt8) (b : UInt8) :
    signAt? (front ++ b :: back) front.length = some (Char.ofUInt8 b) :=
  signAt?_append front (b :: back) 0

theorem signAt?_eq_none {bytes : List UInt8} {i : Nat} :
    signAt? bytes i = none ↔ bytes.length ≤ i := by
  rw [signAt?, Option.map_eq_none_iff, List.getElem?_eq_none_iff]

theorem lt_length_of_signAt? {bytes : List UInt8} {i : Nat} {c : Char}
    (h : signAt? bytes i = some c) : i < bytes.length := by
  rw [← Nat.not_le, ← signAt?_eq_none, h]
  exact Option.some_ne_none c

/-- There is a first byte in a class of ASCII characters just if there is such a first character. -/
theorem any_signAt?_encoded {P : Char → Bool} (hP : AsciiOnly P) (cs : List Char) :
    (signAt? (encoded cs) 0).any P = cs.head?.any P := by
  cases cs with
  | nil => rfl
  | cons c cs =>
    obtain ⟨b, others, hbytes⟩ := List.exists_cons_of_ne_nil (String.utf8EncodeChar_ne_nil (c := c))
    have hmem : b ∈ String.utf8EncodeChar c := hbytes ▸ List.mem_cons_self
    rw [encoded_cons, hbytes]
    exact sign_of_mem hP hmem

theorem signAt?_encoded_eq_some {w : Char} (hw : w.toNat < 128) {cs : List Char} :
    signAt? (encoded cs) 0 = some w ↔ cs.head? = some w := by
  have hany (o : Option Char) : o = some w ↔ o.any (· == w) = true := by
    cases o <;> simp
  rw [hany, hany, any_signAt?_encoded (asciiOnly_beq hw)]

/-- Where bytes are told apart like their characters, the first byte that is looked for is the first
byte of the first character that is. -/
theorem findIdx?_encoded {P : Char → Bool} {Q : UInt8 → Bool}
    (h : ∀ c, ∀ b ∈ String.utf8EncodeChar c, Q b = P c) (cs : List Char) :
    (encoded cs).findIdx? Q = (cs.findIdx? P).map fun n => (encoded (cs.take n)).length := by
  induction cs with
  | nil => rfl
  | cons c cs ih =>
    rw [encoded_cons, List.findIdx?_append, ih, List.findIdx?_cons]
    cases hc : P c with
    | true =>
      obtain ⟨b, others, hbytes⟩ :=
        List.exists_cons_of_ne_nil (String.utf8EncodeChar_ne_nil (c := c))
      have hb : Q b = true := (h c b (hbytes ▸ List.mem_cons_self)).trans hc
      rw [hbytes, List.findIdx?_cons, hb]
      rfl
    | false =>
      have hnone : (String.utf8EncodeChar c).findIdx? Q = none :=
        List.findIdx?_eq_none_iff.2 fun b hb => (h c b hb).trans hc
      rw [hnone, Option.none_or]
      cases cs.findIdx? P with
      | none => rfl
      | some n => simp [encoded_cons, Nat.add_comm]

/-! ## Places and parts -/

/-- Two numbers of bytes that a part of a text stands between. -/
structure IsPart (s : String) (first last : Nat) : Prop where
  firstPlace : IsPlace s first
  lastPlace : IsPlace s last
  ordered : first ≤ last
  inside : last ≤ s.utf8ByteSize

theorem isPart_of_slice? {s part : String} {first last : Nat}
    (h : slice? s first last = some part) : IsPart s first last := by
  rw [slice?] at h
  split at h
  next hplaces => exact ⟨hplaces.1.1, hplaces.1.2, hplaces.2, hplaces.1.2.le_utf8ByteSize⟩
  next => cases h

/-- The part behind the bytes of what is in front of it. -/
theorem slice?_of_append {s : String} {front part back : List Char}
    (hs : s.toList = front ++ (part ++ back)) :
    slice? s (encoded front).length (encoded (front ++ part)).length
      = some (String.ofList part) := by
  refine slice?_eq_some_iff.2 ⟨String.ofList front, String.ofList back, ?_, ?_, ?_⟩
  · rw [← String.toList_inj, hs, ← String.ofList_append, ← String.ofList_append,
      String.toList_ofList, List.append_assoc]
  · exact length_encoded front
  · rw [length_encoded, String.ofList_append]

/-- The part up to the end. -/
theorem slice?_to_end {s : String} {front rest : List Char} (hs : s.toList = front ++ rest) :
    slice? s (encoded front).length (bytes s).length = some (String.ofList rest) := by
  rw [bytes_eq_encoded, hs]
  exact slice?_of_append (by rw [hs, List.append_nil])

/-- **There is no place inside a character.** -/
theorem not_isPlace_inside {s : String} {front back : List Char} {c : Char}
    (hs : s.toList = front ++ c :: back) {k : Nat} (hk : 0 < k) (hc : k < c.utf8Size) :
    ¬IsPlace s ((encoded front).length + k) := by
  intro hplace
  obtain ⟨before, behind, hcut, hlength⟩ := String.Pos.Raw.isValid_iff_exists_append.1 hplace
  have hlength' : (encoded before.toList).length = (encoded front).length + k := by
    rw [length_encoded, String.ofList_toList]
    exact (congrArg String.Pos.Raw.byteIdx hlength).symm
  have hparts : front ++ c :: back = before.toList ++ behind.toList := by
    rw [← hs, hcut, String.toList_append]
  -- the place is behind the characters in front, so the character itself is in front of it
  rcases List.append_eq_append_iff.1 hparts with ⟨other, hbefore, hother⟩ | ⟨other, hfront, -⟩
  · cases other with
    | nil =>
      rw [hbefore, List.append_nil] at hlength'
      omega
    | cons d other =>
      obtain ⟨rfl, -⟩ := List.cons.inj hother
      rw [hbefore, encoded_append, encoded_cons, List.length_append, List.length_append,
        String.length_utf8EncodeChar] at hlength'
      omega
  · rw [hfront, encoded_append, List.length_append] at hlength'
    omega

end TableQuery.Text
