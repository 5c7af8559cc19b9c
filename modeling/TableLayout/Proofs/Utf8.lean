import TableLayout.Proofs.Failure
import TableLayout.Text.Utf8

/-!
# Reading UTF-8 is undoing it

The reader of `Text.Utf8.decode` accepts exactly the bytes that `Text.Utf8.encode` gives for some
text, and reads that text.

- `without`, `tail`, `tails`: a number without its last groups of six bits, and the bytes that carry
  these groups.
- `Pending.Owes`: the numbers that a character under way can still come to. While bytes are read,
  this is the invariant: `decodeFrom_tails` reads the bytes of such a number, and
  `exists_tails_of_decodeFrom` finds them in whatever is read with success.
- `pending?_spec`, `exists_pending?`: what a first byte says is what the characters that begin with
  it need.
- `decode_eq_ok_iff`: the bytes that are read as a text are the bytes of that text.
-/

namespace TableLayout.Text.Utf8

/-! ## The bytes after the first -/

/-- A number without its last `n` groups of six bits. -/
def without : Nat → Nat → Nat
  | 0, v => v
  | n + 1, v => without n v / 64

/-- The byte that carries the last six bits of a number. -/
def tail (v : Nat) : UInt8 :=
  UInt8.ofNat (v % 64 + 0x80)

/-- The bytes that carry the last `n` groups of six bits of a number. -/
def tails : Nat → Nat → List UInt8
  | 0, _ => []
  | n + 1, v => tail (without n v) :: tails n v

/-- A tail byte holds six bits, behind the mark of tail bytes. -/
theorem toNat_tail (v : Nat) : (tail v).toNat = v % 64 + 0x80 := by
  rw [tail, UInt8.toNat_ofNat']
  omega

/-- So it is in the range of tail bytes. -/
theorem tail_bounds (v : Nat) : 0x80 ≤ tail v ∧ tail v ≤ 0xBF := by
  rw [UInt8.le_iff_toNat_le, UInt8.le_iff_toNat_le, toNat_tail]
  show 128 ≤ v % 64 + 128 ∧ v % 64 + 128 ≤ 191
  omega

namespace Pending

/-- The number `v` is one that the character under way can come to. -/
structure Owes (p : Pending) (v : Nat) : Prop where
  value : without p.more v / 64 = p.value
  bounds : p.low ≤ tail (without p.more v) ∧ tail (without p.more v) ≤ p.high

/-- The bounds of the next byte are those of a byte inside a character, or narrower. -/
structure Inside (p : Pending) : Prop where
  low : 0x80 ≤ p.low.toNat
  high : p.high.toNat ≤ 0xBF

/-- The number read so far, with the bits of one more byte. -/
def extended (p : Pending) (b : UInt8) : Nat :=
  p.value * 64 + (b.toNat - 0x80)

/-- What is owed to the same character once a byte is read. -/
def after (p : Pending) (b : UInt8) : Pending :=
  ⟨p.start, p.first, p.more - 1, 0x80, 0xBF, p.extended b⟩

theorem inside_after (p : Pending) (b : UInt8) : (p.after b).Inside :=
  ⟨by simp [after], by simp [after]⟩

/-- Six bits and their byte determine each other. -/
theorem extended_eq_iff {p : Pending} {b : UInt8} (hp : p.Inside) (hb : p.low ≤ b ∧ b ≤ p.high)
    {v : Nat} : p.extended b = v ↔ v / 64 = p.value ∧ tail v = b := by
  have hlow : 0x80 ≤ b.toNat := Nat.le_trans hp.low (UInt8.le_iff_toNat_le.mp hb.1)
  have hhigh : b.toNat ≤ 0xBF := Nat.le_trans (UInt8.le_iff_toNat_le.mp hb.2) hp.high
  rw [← UInt8.toNat_inj, toNat_tail]
  show p.value * 64 + (b.toNat - 0x80) = v ↔ _
  omega

/-- After a byte that is not the last, a number is owed exactly if it was before and the byte is its
own. -/
theorem owes_after_iff {p : Pending} {b : UInt8} {more v : Nat} (hmore : p.more = more + 1)
    (hp : p.Inside) (hb : p.low ≤ b ∧ b ≤ p.high) :
    (p.after b).Owes v ↔ p.Owes v ∧ tail (without p.more v) = b := by
  have hafter : (p.after b).more = more := by
    show p.more - 1 = more
    omega
  have hextended : p.extended b = without p.more v ↔
      without p.more v / 64 = p.value ∧ tail (without p.more v) = b := extended_eq_iff hp hb
  constructor
  · rintro ⟨hvalue, -⟩
    rw [hafter] at hvalue
    obtain ⟨hvalue, htail⟩ := hextended.mp (hmore ▸ hvalue.symm)
    exact ⟨⟨hvalue, htail ▸ hb⟩, htail⟩
  · rintro ⟨howes, htail⟩
    have hvalue := hextended.mpr ⟨howes.value, htail⟩
    refine ⟨?_, tail_bounds _⟩
    rw [hafter]
    exact (hmore ▸ hvalue).symm

end Pending

/-! ## Reading the bytes after the first -/

/-- The last tail byte completes the character, and reading goes on behind it. -/
theorem decodeFrom_last {p : Pending} {b : UInt8} (hmore : p.more = 0)
    (hb : p.low ≤ b ∧ b ≤ p.high) (pos : Nat) (rest : List UInt8) :
    decodeFrom pos (some p) (b :: rest) =
      (Char.ofNat (p.extended b) :: ·) <$> decodeFrom (pos + 1) none rest := by
  rw [decodeFrom, if_pos hb, hmore]
  rfl

/-- Any tail byte before is taken in, with one less to come. -/
theorem decodeFrom_inner {p : Pending} {b : UInt8} {more : Nat} (hmore : p.more = more + 1)
    (hb : p.low ≤ b ∧ b ≤ p.high) (pos : Nat) (rest : List UInt8) :
    decodeFrom pos (some p) (b :: rest) = decodeFrom (pos + 1) (some (p.after b)) rest := by
  rw [decodeFrom, if_pos hb, Pending.after, hmore]
  rfl

/-- The bytes of a number that is owed are read as its character. -/
theorem decodeFrom_tails {p : Pending} {v : Nat} (hp : p.Inside) (h : p.Owes v) (pos : Nat)
    (rest : List UInt8) :
    decodeFrom pos (some p) (tails (p.more + 1) v ++ rest) =
      (Char.ofNat v :: ·) <$> decodeFrom (pos + (p.more + 1)) none rest := by
  -- The induction is on the bytes owed: each of them keeps `v` among the numbers that are owed.
  generalize hmore : p.more = more
  induction more generalizing p pos with
  | zero =>
    have hv : p.extended (tail (without p.more v)) = without p.more v :=
      (Pending.extended_eq_iff hp h.bounds).mpr ⟨h.value, rfl⟩
    show decodeFrom pos (some p) (tail (without 0 v) :: rest) = _
    rw [← hmore, decodeFrom_last hmore h.bounds, hv, hmore]
    rfl
  | succ more ih =>
    have hafter := (Pending.owes_after_iff hmore hp h.bounds).mpr ⟨h, rfl⟩
    have hrest := ih (Pending.inside_after p _) hafter (pos + 1) (by rw [Pending.after, hmore]; rfl)
    have hstep := decodeFrom_inner hmore h.bounds pos (tails (more + 1) v ++ rest)
    rw [hmore] at hrest hstep
    show decodeFrom pos (some p) (tail (without (more + 1) v) :: (tails (more + 1) v ++ rest)) = _
    rw [hstep, hrest, Nat.add_assoc, Nat.add_comm 1]

/-- Inside a character there has to come a byte that may stand there. -/
theorem exists_cons_of_decodeFrom {p : Pending} {pos : Nat} {bytes : List UInt8} {cs : List Char}
    (h : decodeFrom pos (some p) bytes = .ok cs) :
    ∃ b rest, bytes = b :: rest ∧ p.low ≤ b ∧ b ≤ p.high := by
  cases bytes with
  | nil => cases h
  | cons b rest =>
    by_cases hb : p.low ≤ b ∧ b ≤ p.high
    · exact ⟨b, rest, rfl, hb⟩
    · rw [decodeFrom, if_neg hb] at h
      cases h

/-- Whatever is read with success begins with the bytes of a number that is owed. -/
theorem exists_tails_of_decodeFrom {p : Pending} {pos : Nat} {bytes : List UInt8} {cs : List Char}
    (hp : p.Inside) (h : decodeFrom pos (some p) bytes = .ok cs) :
    ∃ v rest cs', p.Owes v ∧ bytes = tails (p.more + 1) v ++ rest ∧ cs = Char.ofNat v :: cs' ∧
      decodeFrom (pos + (p.more + 1)) none rest = .ok cs' := by
  -- The number is known only at the last byte, and `owes_after_iff` carries it back to the first.
  generalize hmore : p.more = more
  induction more generalizing p pos bytes with
  | zero =>
    obtain ⟨b, rest, rfl, hb⟩ := exists_cons_of_decodeFrom h
    rw [decodeFrom_last hmore hb, map_eq_ok_iff] at h
    obtain ⟨cs', hrest, rfl⟩ := h
    obtain ⟨hvalue, htail⟩ := (Pending.extended_eq_iff hp hb).mp rfl
    have howes : p.Owes (p.extended b) := by
      refine ⟨?_, ?_⟩
      · rw [hmore]
        exact hvalue
      · rw [hmore, without, htail]
        exact hb
    refine ⟨p.extended b, rest, cs', howes, ?_, rfl, hrest⟩
    show b :: rest = tail (p.extended b) :: rest
    rw [htail]
  | succ more ih =>
    obtain ⟨b, rest, rfl, hb⟩ := exists_cons_of_decodeFrom h
    rw [decodeFrom_inner hmore hb] at h
    obtain ⟨v, rest', cs', howes, rfl, rfl, hrest⟩ :=
      ih (Pending.inside_after p b) h (by rw [Pending.after, hmore]; rfl)
    obtain ⟨howes, htail⟩ := (Pending.owes_after_iff hmore hp hb).mp howes
    refine ⟨v, rest', cs', howes, ?_, rfl, ?_⟩
    · rw [hmore] at htail
      show _ = tail (without (more + 1) v) :: (tails (more + 1) v ++ rest')
      rw [htail]
    · have hpos : pos + (more + 1 + 1) = pos + 1 + (more + 1) := by omega
      rw [hpos]
      exact hrest

/-! ## First bytes -/

/-- A character of seven bits is its own byte. -/
theorem utf8EncodeChar_one {c : Char} (h : c.toNat ≤ 0x7F) :
    String.utf8EncodeChar c = [UInt8.ofNat c.toNat] := by
  rw [String.utf8EncodeChar]
  exact if_pos h

/-- One of eleven bits has a tail of one byte. -/
theorem utf8EncodeChar_two {c : Char} (hlow : 0x7F < c.toNat) (hhigh : c.toNat ≤ 0x7FF) :
    String.utf8EncodeChar c = UInt8.ofNat (without 1 c.toNat + 0xC0) :: tails 1 c.toNat := by
  have hlead : c.toNat / 64 % 0x20 = c.toNat / 64 := by omega
  have hlow : ¬c.toNat ≤ 0x7F := by omega
  simp only [Char.toNat] at *
  simp only [String.utf8EncodeChar, hlow, hhigh, hlead, tails, tail, without, if_true, if_false]

/-- One of sixteen bits has a tail of two. -/
theorem utf8EncodeChar_three {c : Char} (hlow : 0x7FF < c.toNat) (hhigh : c.toNat ≤ 0xFFFF) :
    String.utf8EncodeChar c = UInt8.ofNat (without 2 c.toNat + 0xE0) :: tails 2 c.toNat := by
  have hlead : c.toNat / 4096 % 0x10 = c.toNat / 64 / 64 := by omega
  have hone : ¬c.toNat ≤ 0x7F := by omega
  have htwo : ¬c.toNat ≤ 0x7FF := by omega
  simp only [Char.toNat] at *
  simp only [String.utf8EncodeChar, hone, htwo, hhigh, hlead, tails, tail, without, if_true,
    if_false]

/-- All others have a tail of three. -/
theorem utf8EncodeChar_four {c : Char} (hlow : 0xFFFF < c.toNat) :
    String.utf8EncodeChar c = UInt8.ofNat (without 3 c.toNat + 0xF0) :: tails 3 c.toNat := by
  have hvalid : c.toNat < 0xD800 ∨ 0xDFFF < c.toNat ∧ c.toNat < 0x110000 := c.valid
  have hlead : c.toNat / 262144 % 0x08 = c.toNat / 64 / 64 / 64 := by omega
  have hmiddle : c.toNat / 4096 = c.toNat / 64 / 64 := by omega
  have hone : ¬c.toNat ≤ 0x7F := by omega
  have htwo : ¬c.toNat ≤ 0x7FF := by omega
  have hthree : ¬c.toNat ≤ 0xFFFF := by omega
  simp only [Char.toNat] at *
  simp only [String.utf8EncodeChar, hone, htwo, hthree, hlead, hmiddle, tails, tail, without,
    if_false]

/-- The bounds of what is owed as bounds on numbers, which arithmetic can work with. -/
theorem owes_iff {p : Pending} {v : Nat} :
    p.Owes v ↔ without p.more v / 64 = p.value ∧ p.low.toNat ≤ without p.more v % 64 + 0x80 ∧
      without p.more v % 64 + 0x80 ≤ p.high.toNat := by
  rw [← toNat_tail, ← UInt8.le_iff_toNat_le, ← UInt8.le_iff_toNat_le]
  exact ⟨fun h => ⟨h.value, h.bounds⟩, fun h => ⟨h.1, h.2⟩⟩

/-- A first byte of two begins the characters from U+0080 up to U+07FF. -/
theorem pending?_two {b : UInt8} (hlow : 0xC2 ≤ b.toNat) (hhigh : b.toNat ≤ 0xDF) (pos : Nat) :
    ∃ p, pending? pos b = some p ∧ p.more = 0 ∧ p.Inside ∧
      ∀ v, p.Owes v ↔ v / 64 + 0xC0 = b.toNat := by
  have hb : 0xC2 ≤ b ∧ b ≤ 0xDF := ⟨UInt8.le_iff_toNat_le.mpr hlow, UInt8.le_iff_toNat_le.mpr hhigh⟩
  refine ⟨⟨pos, b, 0, 0x80, 0xBF, b.toNat - 0xC0⟩, if_pos hb, rfl, ⟨?_, ?_⟩, fun v => ?_⟩
  · exact Nat.le_refl 128
  · exact Nat.le_refl 191
  · rw [owes_iff]
    show v / 64 = b.toNat - 192 ∧ 128 ≤ v % 64 + 128 ∧ v % 64 + 128 ≤ 191 ↔ _
    omega

theorem toNat_ite (b c x y : UInt8) :
    (if b = c then x else y).toNat = if b.toNat = c.toNat then x.toNat else y.toNat := by
  by_cases h : b = c
  · rw [if_pos h, if_pos (congrArg UInt8.toNat h)]
  · rw [if_neg h, if_neg fun hnat => h (UInt8.toNat_inj.mp hnat)]

/-- A first byte of three begins the characters from U+0800 up to U+FFFF; surrogates are none. -/
theorem pending?_three {b : UInt8} (hlow : 0xE0 ≤ b.toNat) (hhigh : b.toNat ≤ 0xEF) (pos : Nat) :
    ∃ p, pending? pos b = some p ∧ p.more = 1 ∧ p.Inside ∧
      ∀ v, p.Owes v ↔ v / 64 / 64 + 0xE0 = b.toNat ∧ 0x7FF < v ∧ (v < 0xD800 ∨ 0xDFFF < v) := by
  have hb : 0xE0 ≤ b ∧ b ≤ 0xEF := ⟨UInt8.le_iff_toNat_le.mpr hlow, UInt8.le_iff_toNat_le.mpr hhigh⟩
  have htwo : ¬(0xC2 ≤ b ∧ b ≤ 0xDF) := fun h => by
    have hle : b.toNat ≤ 0xDF := UInt8.le_iff_toNat_le.mp h.2
    omega
  -- The narrower bounds after these two keep out overlong forms and surrogates.
  have hE0 : (if b = 0xE0 then (0xA0 : UInt8) else 0x80).toNat =
      if b.toNat = 0xE0 then 0xA0 else 0x80 := toNat_ite ..
  have hED : (if b = 0xED then (0x9F : UInt8) else 0xBF).toNat =
      if b.toNat = 0xED then 0x9F else 0xBF := toNat_ite ..
  refine ⟨_, (if_neg htwo).trans (if_pos hb), rfl, ⟨?_, ?_⟩, fun v => ?_⟩
  · rw [hE0]
    split <;> omega
  · rw [hED]
    split <;> omega
  · rw [owes_iff, hE0, hED]
    show v / 64 / 64 = b.toNat - 224 ∧ _ ≤ v / 64 % 64 + 128 ∧ v / 64 % 64 + 128 ≤ _ ↔ _
    split <;> split <;> omega

/-- A first byte of four begins the characters from U+10000 on. -/
theorem pending?_four {b : UInt8} (hlow : 0xF0 ≤ b.toNat) (hhigh : b.toNat ≤ 0xF4) (pos : Nat) :
    ∃ p, pending? pos b = some p ∧ p.more = 2 ∧ p.Inside ∧
      ∀ v, p.Owes v ↔ v / 64 / 64 / 64 + 0xF0 = b.toNat ∧ 0xFFFF < v ∧ v < 0x110000 := by
  have hb : 0xF0 ≤ b ∧ b ≤ 0xF4 := ⟨UInt8.le_iff_toNat_le.mpr hlow, UInt8.le_iff_toNat_le.mpr hhigh⟩
  have htwo : ¬(0xC2 ≤ b ∧ b ≤ 0xDF) := fun h => by
    have hle : b.toNat ≤ 0xDF := UInt8.le_iff_toNat_le.mp h.2
    omega
  have hthree : ¬(0xE0 ≤ b ∧ b ≤ 0xEF) := fun h => by
    have hle : b.toNat ≤ 0xEF := UInt8.le_iff_toNat_le.mp h.2
    omega
  -- The narrower bounds after these two keep out overlong forms and numbers past the last one.
  have hF0 : (if b = 0xF0 then (0x90 : UInt8) else 0x80).toNat =
      if b.toNat = 0xF0 then 0x90 else 0x80 := toNat_ite ..
  have hF4 : (if b = 0xF4 then (0x8F : UInt8) else 0xBF).toNat =
      if b.toNat = 0xF4 then 0x8F else 0xBF := toNat_ite ..
  refine ⟨_, (if_neg htwo).trans ((if_neg hthree).trans (if_pos hb)), rfl, ⟨?_, ?_⟩, fun v => ?_⟩
  · rw [hF0]
    split <;> omega
  · rw [hF4]
    split <;> omega
  · rw [owes_iff, hF0, hF4]
    show v / 64 / 64 / 64 = b.toNat - 240 ∧ _ ≤ v / 64 / 64 % 64 + 128 ∧
      v / 64 / 64 % 64 + 128 ≤ _ ↔ _
    split <;> split <;> omega

/-- No character begins with any other byte from `0x80` on. -/
theorem bounds_of_pending? {b : UInt8} {pos : Nat} {p : Pending} (h : pending? pos b = some p) :
    0xC2 ≤ b.toNat ∧ b.toNat ≤ 0xF4 := by
  unfold pending? at h
  simp only [UInt8.le_iff_toNat_le] at h
  split at h
  · next hb => exact ⟨hb.1, Nat.le_trans hb.2 (by decide)⟩
  · split at h
    · next hb => exact ⟨Nat.le_trans (by decide) hb.1, Nat.le_trans hb.2 (by decide)⟩
    · split at h
      · next hb => exact ⟨Nat.le_trans (by decide) hb.1, hb.2⟩
      · cases h

/-- A character from U+0080 on is a first byte and the bytes of its number. -/
theorem exists_pending? {c : Char} (h : 0x7F < c.toNat) (pos : Nat) :
    ∃ b p, ¬b < 0x80 ∧ pending? pos b = some p ∧ p.Inside ∧ p.Owes c.toNat ∧
      String.utf8EncodeChar c = b :: tails (p.more + 1) c.toNat := by
  have hvalid : c.toNat < 0xD800 ∨ 0xDFFF < c.toNat ∧ c.toNat < 0x110000 := c.valid
  have hnat : ∀ n, n < 256 → (UInt8.ofNat n).toNat = n := fun n hn => by
    rw [UInt8.toNat_ofNat']
    exact Nat.mod_eq_of_lt hn
  have hstart : ∀ n, 0x80 ≤ n → n < 256 → ¬UInt8.ofNat n < 0x80 := fun n hlow hhigh hlt => by
    have hlt : (UInt8.ofNat n).toNat < 0x80 := UInt8.lt_iff_toNat_lt.mp hlt
    rw [hnat n hhigh] at hlt
    omega
  -- By the number of bytes that the character takes.
  by_cases htwo : c.toNat ≤ 0x7FF
  · have hb := hnat (c.toNat / 64 + 0xC0) (by omega)
    obtain ⟨p, hp, hmore, hinside, howes⟩ :=
      pending?_two (by rw [hb]; omega) (by rw [hb]; omega) pos
    refine ⟨_, p, hstart _ (by omega) (by omega), hp, hinside, (howes _).mpr hb.symm, ?_⟩
    rw [hmore]
    exact utf8EncodeChar_two h htwo
  by_cases hthree : c.toNat ≤ 0xFFFF
  · have hb := hnat (c.toNat / 64 / 64 + 0xE0) (by omega)
    obtain ⟨p, hp, hmore, hinside, howes⟩ :=
      pending?_three (by rw [hb]; omega) (by rw [hb]; omega) pos
    refine ⟨_, p, hstart _ (by omega) (by omega), hp, hinside,
      (howes _).mpr ⟨hb.symm, by omega, by omega⟩, ?_⟩
    rw [hmore]
    exact utf8EncodeChar_three (by omega) hthree
  · have hb := hnat (c.toNat / 64 / 64 / 64 + 0xF0) (by omega)
    obtain ⟨p, hp, hmore, hinside, howes⟩ :=
      pending?_four (by rw [hb]; omega) (by rw [hb]; omega) pos
    refine ⟨_, p, hstart _ (by omega) (by omega), hp, hinside,
      (howes _).mpr ⟨hb.symm, by omega, by omega⟩, ?_⟩
    rw [hmore]
    exact utf8EncodeChar_four (by omega)

/-- There is a character for every number outside of the gap of the surrogates. -/
theorem exists_char {v : Nat} (h : v < 0xD800 ∨ 0xDFFF < v ∧ v < 0x110000) :
    ∃ c : Char, c.toNat = v :=
  ⟨Char.ofNatAux v h, rfl⟩

/-- Whatever is owed after a first byte is the number of a character that begins with it. -/
theorem pending?_spec {b : UInt8} {pos : Nat} {p : Pending} (h : pending? pos b = some p) :
    p.Inside ∧ ∀ v, p.Owes v → ∃ c : Char, c.toNat = v ∧
      String.utf8EncodeChar c = b :: tails (p.more + 1) v := by
  obtain ⟨hlow, hhigh⟩ := bounds_of_pending? h
  have hfirst : ∀ n, n = b.toNat → UInt8.ofNat n = b := fun n hn => by
    rw [hn, UInt8.ofNat_toNat]
  -- The first byte tells how many there are, so the lemma for that number gives what is owed.
  by_cases htwo : b.toNat ≤ 0xDF
  · obtain ⟨p', hp, hmore, hinside, howes⟩ := pending?_two hlow htwo pos
    obtain rfl : p' = p := Option.some.inj (hp.symm.trans h)
    refine ⟨hinside, fun v hv => ?_⟩
    have hb := (howes v).mp hv
    obtain ⟨c, rfl⟩ := exists_char (v := v) (by omega)
    refine ⟨c, rfl, ?_⟩
    rw [hmore, utf8EncodeChar_two (by omega) (by omega), without, without, hfirst _ hb]
  by_cases hthree : b.toNat ≤ 0xEF
  · obtain ⟨p', hp, hmore, hinside, howes⟩ := pending?_three (by omega) hthree pos
    obtain rfl : p' = p := Option.some.inj (hp.symm.trans h)
    refine ⟨hinside, fun v hv => ?_⟩
    obtain ⟨hb, hlow, hvalid⟩ := (howes v).mp hv
    obtain ⟨c, rfl⟩ := exists_char (v := v) (by omega)
    refine ⟨c, rfl, ?_⟩
    rw [hmore, utf8EncodeChar_three hlow (by omega), without, without, without, hfirst _ hb]
  · obtain ⟨p', hp, hmore, hinside, howes⟩ := pending?_four (by omega) hhigh pos
    obtain rfl : p' = p := Option.some.inj (hp.symm.trans h)
    refine ⟨hinside, fun v hv => ?_⟩
    obtain ⟨hb, hlow, hvalid⟩ := (howes v).mp hv
    obtain ⟨c, rfl⟩ := exists_char (v := v) (by omega)
    refine ⟨c, rfl, ?_⟩
    rw [hmore, utf8EncodeChar_four hlow, without, without, without, without, hfirst _ hb]

/-! ## Whole texts -/

/-- The bytes of a character are read as that character. -/
theorem decodeFrom_utf8EncodeChar (c : Char) (pos : Nat) (rest : List UInt8) :
    ∃ next, decodeFrom pos none (String.utf8EncodeChar c ++ rest) =
      (c :: ·) <$> decodeFrom next none rest := by
  by_cases h : c.toNat ≤ 0x7F
  · refine ⟨pos + 1, ?_⟩
    have hnat : (UInt8.ofNat c.toNat).toNat = c.toNat := by
      rw [UInt8.toNat_ofNat']
      omega
    have hlt : UInt8.ofNat c.toNat < 0x80 := by
      rw [UInt8.lt_iff_toNat_lt, hnat]
      exact Nat.lt_succ_of_le h
    rw [utf8EncodeChar_one h, List.singleton_append, decodeFrom, if_pos hlt, hnat, Char.ofNat_toNat]
  · -- The reader takes up the first byte, and what it then owes is the rest of the character.
    obtain ⟨b, p, hstart, hp, hinside, howes, hbytes⟩ := exists_pending? (Nat.lt_of_not_le h) pos
    refine ⟨pos + 1 + (p.more + 1), ?_⟩
    rw [hbytes, List.cons_append, decodeFrom, if_neg hstart, hp]
    show decodeFrom (pos + 1) (some p) _ = _
    rw [decodeFrom_tails hinside howes, Char.ofNat_toNat]

/-- Decoding undoes encoding. -/
theorem decodeFrom_encode (cs : List Char) (pos : Nat) :
    decodeFrom pos none (cs.flatMap String.utf8EncodeChar) = .ok cs := by
  induction cs generalizing pos with
  | nil => rfl
  | cons c cs ih =>
    rw [List.flatMap_cons]
    obtain ⟨next, hnext⟩ := decodeFrom_utf8EncodeChar c pos (cs.flatMap String.utf8EncodeChar)
    rw [hnext, ih]
    rfl

/-- Whatever is read with success begins with the bytes of the first character read. -/
theorem exists_char_of_decodeFrom {pos : Nat} {b : UInt8} {rest : List UInt8} {cs : List Char}
    (h : decodeFrom pos none (b :: rest) = .ok cs) :
    ∃ c cs' next rest', cs = c :: cs' ∧ b :: rest = String.utf8EncodeChar c ++ rest' ∧
      rest'.length ≤ rest.length ∧ decodeFrom next none rest' = .ok cs' := by
  rw [decodeFrom] at h
  -- One byte is a whole character below U+0080; any other byte leaves a character pending.
  by_cases hb : b < 0x80
  · rw [if_pos hb, map_eq_ok_iff] at h
    obtain ⟨cs', hrest, rfl⟩ := h
    have hlt : b.toNat < 0x80 := UInt8.lt_iff_toNat_lt.mp hb
    obtain ⟨c, hc⟩ := exists_char (v := b.toNat) (by omega)
    refine ⟨c, cs', pos + 1, rest, ?_, ?_, Nat.le_refl _, hrest⟩
    · rw [← hc, Char.ofNat_toNat]
    · rw [utf8EncodeChar_one (by omega), hc, UInt8.ofNat_toNat]
      rfl
  · rw [if_neg hb] at h
    cases hp : pending? pos b with
    | none =>
      rw [hp] at h
      cases h
    | some p =>
      rw [hp] at h
      obtain ⟨hinside, hchar⟩ := pending?_spec hp
      obtain ⟨v, rest', cs', howes, rfl, rfl, hrest⟩ := exists_tails_of_decodeFrom hinside h
      obtain ⟨c, rfl, hbytes⟩ := hchar v howes
      refine ⟨c, cs', _, rest', ?_, ?_, ?_, hrest⟩
      · rw [Char.ofNat_toNat]
      · rw [hbytes]
        rfl
      · rw [List.length_append]
        exact Nat.le_add_left ..

/-- And it accepts nothing but encodings. -/
theorem eq_encode_of_decodeFrom : ∀ {bytes : List UInt8} {pos : Nat} {cs : List Char},
    decodeFrom pos none bytes = .ok cs → bytes = cs.flatMap String.utf8EncodeChar
  | [], _, _, h => by
    cases h
    rfl
  | b :: rest, _, _, h => by
    obtain ⟨c, cs, next, rest', rfl, hbytes, hlength, hrest⟩ := exists_char_of_decodeFrom h
    rw [hbytes, List.flatMap_cons, ← eq_encode_of_decodeFrom hrest]
termination_by bytes => bytes.length
decreasing_by exact Nat.lt_succ_of_le hlength

/-- Bytes are read as a text exactly if they are the bytes of that text. -/
theorem decode_eq_ok_iff {bytes : List UInt8} {s : String} :
    decode bytes = .ok s ↔ bytes = encode s := by
  rw [decode, map_eq_ok_iff]
  constructor
  · rintro ⟨cs, h, rfl⟩
    rw [encode, String.toList_ofList]
    exact eq_encode_of_decodeFrom h
  · rintro rfl
    exact ⟨s.toList, decodeFrom_encode s.toList 0, String.ofList_toList⟩

end TableLayout.Text.Utf8
