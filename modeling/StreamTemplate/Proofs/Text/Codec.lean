import StreamTemplate.Text.Codec
import Mathlib.Data.List.Basic

/-!
# UTF-8 is read back

Decoding reads one character after the other, and reads exactly what encoding writes for each
(`decodeUtf8_utf8Char`, `utf8Char_of_decodeUtf8`). So bytes decode to a text if and only if they are
its encoding, and what is written in pieces is read like the whole, as long as no piece ends inside
a character.
-/

namespace StreamTemplate.Text

/-! ### Bytes -/

theorem toNat_toUInt8 {n : Nat} (h : n < 0x100) : n.toUInt8.toNat = n := by
  simp [Nat.mod_eq_of_lt h]

theorem toUInt8_eq {n : Nat} {b : UInt8} (h : n = b.toNat) : n.toUInt8 = b := by
  rw [h]
  simp

theorem toNat_ofNat {n : Nat} (valid : n.isValidChar) : (Char.ofNat n).toNat = n := by
  unfold Char.ofNat
  rw [dif_pos valid]
  rfl

/-! ### One character -/

section

variable {pos good acc lo hi count n : Nat} {b : UInt8} {rest : List UInt8} {cs : List Char}

theorem utf8Tail_zero : utf8Tail 0 lo hi acc good rest = .ok acc := by
  cases rest <;> rfl

theorem utf8Tail_cons (least : lo ≤ b.toNat) (most : b.toNat ≤ hi) :
    utf8Tail (count + 1) lo hi acc good (b :: rest) =
      utf8Tail count 0x80 0xBF (acc * 0x40 + (b.toNat - 0x80)) (good + 1) rest := by
  rw [utf8Tail, if_pos (by simp [least, most])]

/-- A continuation that is read begins with a byte in range. -/
theorem exists_of_utf8Tail (h : utf8Tail (count + 1) lo hi acc good rest = .ok n) :
    ∃ b more, rest = b :: more ∧ lo ≤ b.toNat ∧ b.toNat ≤ hi ∧
      utf8Tail count 0x80 0xBF (acc * 0x40 + (b.toNat - 0x80)) (good + 1) more = .ok n := by
  cases rest with
  | nil => simp [utf8Tail] at h
  | cons b more =>
    rw [utf8Tail] at h
    split at h
    next range =>
      simp only [Bool.and_eq_true, decide_eq_true_eq] at range
      exact ⟨b, more, rfl, range.1, range.2, h⟩
    next => cases h

theorem decodeUtf8_skip (pos : Nat) (xs ys : List UInt8) :
    decodeUtf8 pos xs.length (xs ++ ys) = decodeUtf8 (pos + xs.length) 0 ys := by
  induction xs generalizing pos with
  | nil => rfl
  | cons x xs ih =>
    show decodeUtf8 (pos + 1) xs.length (xs ++ ys) = _
    rw [ih, List.length_cons, Nat.add_right_comm, Nat.add_assoc]

/-- A first byte and the continuation that it asks for are a character. -/
theorem decodeUtf8_cons (b : UInt8) (tail : List UInt8) {bits : Nat}
    (head : utf8Head? b.toNat = some (count, lo, hi, bits)) (all : tail.length = count)
    (good : utf8Tail count lo hi bits 1 (tail ++ rest) = .ok n) :
    decodeUtf8 pos 0 (b :: tail ++ rest) =
      (Char.ofNat n :: ·) <$> decodeUtf8 (pos + (b :: tail).length) 0 rest := by
  subst all
  rw [List.cons_append, decodeUtf8]
  simp only [head, good, decodeUtf8_skip]
  rw [List.length_cons, Nat.add_assoc, Nat.add_comm 1]

/-- What encoding writes for a character is read as that character. -/
theorem decodeUtf8_utf8Char (pos : Nat) (c : Char) (rest : List UInt8) :
    decodeUtf8 pos 0 (utf8Char c ++ rest) =
      (c :: ·) <$> decodeUtf8 (pos + (utf8Char c).length) 0 rest := by
  have valid : c.toNat < 0xD800 ∨ 0xDFFF < c.toNat ∧ c.toNat < 0x110000 := c.valid
  have same : Char.ofNat c.toNat = c := Char.ofNat_toNat c
  unfold utf8Char
  generalize c.toNat = n at valid same
  subst same
  dsimp only
  split
  case isTrue one =>
    have head : utf8Head? n.toUInt8.toNat = some (0, 0, 0, n) := by
      rw [toNat_toUInt8 (by omega), utf8Head?, if_pos one]
    exact decodeUtf8_cons _ [] head rfl utf8Tail_zero
  have last : (0x80 + n % 0x40).toUInt8.toNat = 0x80 + n % 0x40 := toNat_toUInt8 (by omega)
  split
  case isTrue two =>
    have first : (0xC0 + n / 0x40).toUInt8.toNat = 0xC0 + n / 0x40 := toNat_toUInt8 (by omega)
    generalize (0xC0 + n / 0x40).toUInt8 = b₀ at *
    generalize (0x80 + n % 0x40).toUInt8 = b₁ at *
    have head : utf8Head? b₀.toNat = some (1, 0x80, 0xBF, n / 0x40) := by
      rw [first, utf8Head?, if_neg (by omega), if_neg (by omega), if_pos (by omega)]
      simp
    refine decodeUtf8_cons b₀ [b₁] head rfl ?_
    rw [List.singleton_append, utf8Tail_cons (by omega) (by omega), utf8Tail_zero]
    refine congrArg Except.ok ?_
    omega
  have middle : (0x80 + n / 0x40 % 0x40).toUInt8.toNat = 0x80 + n / 0x40 % 0x40 :=
    toNat_toUInt8 (by omega)
  split
  case isTrue three =>
    have first : (0xE0 + n / 0x1000).toUInt8.toNat = 0xE0 + n / 0x1000 := toNat_toUInt8 (by omega)
    generalize (0xE0 + n / 0x1000).toUInt8 = b₀ at *
    generalize (0x80 + n / 0x40 % 0x40).toUInt8 = b₁ at *
    generalize (0x80 + n % 0x40).toUInt8 = b₂ at *
    have head : utf8Head? b₀.toNat = some (2, if b₀.toNat = 0xE0 then 0xA0 else 0x80,
        if b₀.toNat = 0xED then 0x9F else 0xBF, b₀.toNat - 0xE0) := by
      rw [utf8Head?, if_neg (by omega), if_neg (by omega), if_neg (by omega), if_pos (by omega)]
    refine decodeUtf8_cons b₀ [b₁, b₂] head rfl ?_
    rw [List.cons_append, List.singleton_append, utf8Tail_cons (by split <;> omega) (by split <;> omega),
      utf8Tail_cons (by omega) (by omega), utf8Tail_zero]
    refine congrArg Except.ok ?_
    omega
  case isFalse four =>
    have first : (0xF0 + n / 0x40000).toUInt8.toNat = 0xF0 + n / 0x40000 := toNat_toUInt8 (by omega)
    have next : (0x80 + n / 0x1000 % 0x40).toUInt8.toNat = 0x80 + n / 0x1000 % 0x40 :=
      toNat_toUInt8 (by omega)
    generalize (0xF0 + n / 0x40000).toUInt8 = b₀ at *
    generalize (0x80 + n / 0x1000 % 0x40).toUInt8 = b₁ at *
    generalize (0x80 + n / 0x40 % 0x40).toUInt8 = b₂ at *
    generalize (0x80 + n % 0x40).toUInt8 = b₃ at *
    have head : utf8Head? b₀.toNat = some (3, if b₀.toNat = 0xF0 then 0x90 else 0x80,
        if b₀.toNat = 0xF4 then 0x8F else 0xBF, b₀.toNat - 0xF0) := by
      rw [utf8Head?, if_neg (by omega), if_neg (by omega), if_neg (by omega), if_neg (by omega),
        if_pos (by omega)]
    refine decodeUtf8_cons b₀ [b₁, b₂, b₃] head rfl ?_
    rw [List.cons_append, List.cons_append, List.singleton_append,
      utf8Tail_cons (by split <;> omega) (by split <;> omega), utf8Tail_cons (by omega) (by omega),
      utf8Tail_cons (by omega) (by omega), utf8Tail_zero]
    refine congrArg Except.ok ?_
    omega

/-- A first byte with the continuation that it asks for is what encoding writes for a character. -/
theorem exists_utf8Char {bits : Nat} (head : utf8Head? b.toNat = some (count, lo, hi, bits))
    (read : utf8Tail count lo hi bits good rest = .ok n) :
    ∃ c tail, b :: rest = utf8Char c ++ tail := by
  have byte : b.toNat < 0x100 := b.toNat_lt
  have written {m : Nat} (valid : m < 0xD800 ∨ 0xDFFF < m ∧ m < 0x110000) :
      (Char.ofNat m).toNat = m := toNat_ofNat valid
  unfold utf8Head? at head
  split at head
  case isTrue one =>
    have char : (Char.ofNat b.toNat).toNat = b.toNat := written (by omega)
    refine ⟨Char.ofNat b.toNat, rest, ?_⟩
    rw [utf8Char, char, if_pos one, toUInt8_eq rfl]
    rfl
  split at head
  case isTrue => cases head
  split at head
  case isTrue two =>
    cases head
    obtain ⟨b₁, tail, rfl, least, most, done⟩ := exists_of_utf8Tail read
    have char := @written ((b.toNat - 0xC0) * 0x40 + (b₁.toNat - 0x80)) (by omega)
    refine ⟨Char.ofNat ((b.toNat - 0xC0) * 0x40 + (b₁.toNat - 0x80)), tail, ?_⟩
    rw [utf8Char, char, if_neg (by omega), if_pos (by omega), toUInt8_eq (b := b) (by omega),
      toUInt8_eq (b := b₁) (by omega)]
    rfl
  split at head
  case isTrue three =>
    cases head
    obtain ⟨b₁, more, rfl, least₁, most₁, later⟩ := exists_of_utf8Tail read
    obtain ⟨b₂, tail, rfl, least₂, most₂, -⟩ := exists_of_utf8Tail later
    obtain ⟨m, point⟩ : ∃ m, m = ((b.toNat - 0xE0) * 0x40 + (b₁.toNat - 0x80)) * 0x40 +
      (b₂.toNat - 0x80) := ⟨_, rfl⟩
    have long : 0x800 ≤ m ∧ 0x80 ≤ b₁.toNat ∧ b₁.toNat ≤ 0xBF := by
      split at least₁ <;> split at most₁ <;> omega
    have char := @written m (by split at most₁ <;> omega)
    refine ⟨Char.ofNat m, tail, ?_⟩
    rw [utf8Char, char, if_neg (by omega), if_neg (by omega), if_pos (by omega),
      toUInt8_eq (b := b) (by omega), toUInt8_eq (b := b₁) (by omega),
      toUInt8_eq (b := b₂) (by omega)]
    rfl
  split at head
  case isTrue four =>
    cases head
    obtain ⟨b₁, more₁, rfl, least₁, most₁, later₁⟩ := exists_of_utf8Tail read
    obtain ⟨b₂, more₂, rfl, least₂, most₂, later₂⟩ := exists_of_utf8Tail later₁
    obtain ⟨b₃, tail, rfl, least₃, most₃, -⟩ := exists_of_utf8Tail later₂
    obtain ⟨m, point⟩ : ∃ m, m = (((b.toNat - 0xF0) * 0x40 + (b₁.toNat - 0x80)) * 0x40 +
      (b₂.toNat - 0x80)) * 0x40 + (b₃.toNat - 0x80) := ⟨_, rfl⟩
    have long : 0x10000 ≤ m ∧ m < 0x110000 ∧ 0x80 ≤ b₁.toNat ∧ b₁.toNat ≤ 0xBF := by
      split at least₁ <;> split at most₁ <;> omega
    have char := @written m (by omega)
    refine ⟨Char.ofNat m, tail, ?_⟩
    rw [utf8Char, char, if_neg (by omega), if_neg (by omega), if_neg (by omega),
      toUInt8_eq (b := b) (by omega), toUInt8_eq (b := b₁) (by omega),
      toUInt8_eq (b := b₂) (by omega), toUInt8_eq (b := b₃) (by omega)]
    rfl
  case isFalse => cases head

/-- What is read as a character begins with what encoding writes for it. -/
theorem utf8Char_of_decodeUtf8 (h : decodeUtf8 pos 0 (b :: rest) = .ok cs) :
    ∃ c more tail, cs = c :: more ∧ b :: rest = utf8Char c ++ tail ∧
      decodeUtf8 (pos + (utf8Char c).length) 0 tail = .ok more := by
  obtain ⟨c, tail, split⟩ : ∃ c tail, b :: rest = utf8Char c ++ tail := by
    rw [decodeUtf8] at h
    split at h
    next => cases h
    next count lo hi bits head =>
      split at h
      next => cases h
      next => cases h
      next n read => exact exists_utf8Char head read
  rw [split, decodeUtf8_utf8Char] at h
  cases later : decodeUtf8 (pos + (utf8Char c).length) 0 tail with
  | error e => simp [later, Functor.map, Except.map] at h
  | ok more =>
    rw [later] at h
    cases h
    exact ⟨c, more, tail, rfl, split, later⟩

end

/-! ### A whole text -/

variable {pos : Nat} {bs : List UInt8} {cs : List Char}

/-- What is read of bytes that begin with a text is that text and what is read of the others. -/
theorem decodeUtf8_append (pos : Nat) (cs : List Char) (rest : List UInt8) :
    decodeUtf8 pos 0 (cs.flatMap utf8Char ++ rest) =
      (cs ++ ·) <$> decodeUtf8 (pos + (cs.flatMap utf8Char).length) 0 rest := by
  induction cs generalizing pos with
  | nil => cases h : decodeUtf8 pos 0 rest <;> simp [h, Functor.map, Except.map]
  | cons c cs ih =>
    rw [List.flatMap_cons, List.append_assoc, decodeUtf8_utf8Char, ih, List.length_append,
      ← Nat.add_assoc]
    cases decodeUtf8 (pos + (utf8Char c).length + (cs.flatMap utf8Char).length) 0 rest <;> rfl

/-- Bytes are read as a text exactly if they are what encoding writes for it. -/
theorem decodeUtf8_eq_ok_iff : decodeUtf8 pos 0 bs = .ok cs ↔ bs = cs.flatMap utf8Char := by
  constructor
  · intro h
    induction cs generalizing pos bs with
    | nil =>
      cases bs with
      | nil => rfl
      | cons b rest =>
        obtain ⟨c, more, -, ⟨⟩, -⟩ := utf8Char_of_decodeUtf8 h
    | cons c cs ih =>
      cases bs with
      | nil => cases h
      | cons b rest =>
        obtain ⟨c', more, tail, same, split, later⟩ := utf8Char_of_decodeUtf8 h
        obtain ⟨rfl, rfl⟩ := List.cons.inj same
        rw [split, ih later, List.flatMap_cons]
  · rintro rfl
    have whole := decodeUtf8_append pos cs []
    rw [List.append_nil] at whole
    rw [whole]
    show Except.ok (cs ++ []) = _
    rw [List.append_nil]

/-- A text has bytes of its own. -/
theorem flatMap_utf8Char_injective : (List.flatMap utf8Char).Injective := fun cs cs' same => by
  have read : decodeUtf8 0 0 (cs.flatMap utf8Char) = .ok cs := decodeUtf8_eq_ok_iff.mpr rfl
  rw [decodeUtf8_eq_ok_iff.mpr same] at read
  exact (Except.ok.inj read).symm

theorem decodeNamed_utf8 {text : String} :
    decodeNamed "utf-8" bs = .ok text ↔ bs = text.toList.flatMap utf8Char := by
  have decode : decodeNamed "utf-8" bs = String.ofList <$> decodeUtf8 0 0 bs := by
    cases bs <;> rfl
  have read : decodeUtf8 0 0 bs = .ok text.toList ↔ bs = text.toList.flatMap utf8Char :=
    decodeUtf8_eq_ok_iff
  rw [decode, ← read]
  cases decodeUtf8 0 0 bs with
  | error e => simp [Functor.map, Except.map]
  | ok cs => simp [Functor.map, Except.map, String.ext_iff]

end StreamTemplate.Text
