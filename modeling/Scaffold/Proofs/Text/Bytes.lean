import Mathlib

/-!
# The order of bytes

Texts are ordered by their characters, and that is the order of their bytes
(`bytes_lt_of_lt`).  A character is written in more bytes the later it comes, and the first byte
tells how many follow (`KeepsOrder.utf8`).  So of two texts the one that comes first is less at the
first byte in which they differ, whatever characters come after.
-/

namespace Scaffold.Text

/-- The bytes a text is stored as. -/
def bytes (s : String) : List UInt8 := s.toUTF8.data.toList

theorem bytes_eq_flatMap (s : String) : bytes s = s.toList.flatMap String.utf8EncodeChar := by
  rw [bytes, String.toUTF8, ← String.utf8Encode_toList, List.utf8Encode,
    List.toList_data_toByteArray]

/-! ## Numbers as bytes -/

/-- Numbers below a bound are written so that their order can be seen in the bytes, whatever
follows these. -/
def KeepsOrder (bound : ℕ) (write : ℕ → List UInt8) : Prop :=
  ∀ ⦃m n⦄, m < n → n < bound → ∀ x y, write m ++ x < write n ++ y

theorem cons_ofNat_lt {m n : ℕ} (h : m < n) (hn : n < 256) (x y : List UInt8) :
    UInt8.ofNat m :: x < UInt8.ofNat n :: y := by
  refine List.cons_lt_cons_iff.2 (.inl ?_)
  rw [UInt8.lt_iff_toNat_lt, UInt8.toNat_ofNat_of_lt' (h.trans hn), UInt8.toNat_ofNat_of_lt' hn]
  exact h

namespace KeepsOrder

variable {bound : ℕ} {write : ℕ → List UInt8}

theorem mono {bound' : ℕ} (h : KeepsOrder bound write) (hle : bound' ≤ bound) :
    KeepsOrder bound' write :=
  fun _ _ hlt hn => h hlt (hn.trans_le hle)

/-- A first byte, with a mark. -/
theorem lead (bound mark : ℕ) (h : bound + mark ≤ 256) :
    KeepsOrder bound fun m => [UInt8.ofNat (m % bound + mark)] := by
  intro m n hlt hn x y
  have hm : m % bound = m := Nat.mod_eq_of_lt (hlt.trans hn)
  have hn' : n % bound = n := Nat.mod_eq_of_lt hn
  exact cons_ofNat_lt (by omega) (by omega) x y

/-- One more byte, for the last digit to the base of 64. -/
theorem digit (h : KeepsOrder bound write) :
    KeepsOrder (bound * 64) fun m => write (m / 64) ++ [UInt8.ofNat (m % 64 + 128)] := by
  intro m n hlt hn x y
  rw [List.append_assoc, List.append_assoc]
  obtain hdiv | hdiv := (Nat.div_le_div_right (c := 64) hlt.le).lt_or_eq
  · exact h hdiv (by omega) _ _
  · -- all digits but the last agree
    rw [hdiv]
    exact List.append_left_lt (cons_ofNat_lt (by omega) (by omega) x y)

/-- One way to write small numbers, and another for those that are greater. -/
theorem orElse {k : ℕ} {write' : ℕ → List UInt8} (h : KeepsOrder (k + 1) write)
    (h' : KeepsOrder bound write')
    (hacross : ∀ m ≤ k, ∀ n < bound, k < n → ∀ x y, write m ++ x < write' n ++ y) :
    KeepsOrder bound fun m => if m ≤ k then write m else write' m := by
  intro m n hlt hn x y
  dsimp only
  by_cases hnk : n ≤ k
  · rw [if_pos hnk, if_pos (hlt.le.trans hnk)]
    exact h hlt (Nat.lt_succ_of_le hnk) x y
  · rw [if_neg hnk]
    by_cases hmk : m ≤ k
    · rw [if_pos hmk]
      exact hacross m hmk n hn (Nat.lt_of_not_le hnk) x y
    · rw [if_neg hmk]
      exact h' hlt hn x y

/-- The numbers of characters, in one to four bytes. -/
theorem utf8 : KeepsOrder 0x110000 fun m =>
    if m ≤ 0x7f then [UInt8.ofNat m]
    else if m ≤ 0x7ff then [UInt8.ofNat (m / 64 % 32 + 192), UInt8.ofNat (m % 64 + 128)]
    else if m ≤ 0xffff then
      [UInt8.ofNat (m / 4096 % 16 + 224), UInt8.ofNat (m / 64 % 64 + 128), UInt8.ofNat (m % 64 + 128)]
    else
      [UInt8.ofNat (m / 262144 % 8 + 240), UInt8.ofNat (m / 4096 % 64 + 128),
        UInt8.ofNat (m / 64 % 64 + 128), UInt8.ofNat (m % 64 + 128)] := by
  have hone : KeepsOrder (0x7f + 1) fun m => [UInt8.ofNat m] := fun m n hlt hn x y =>
    cons_ofNat_lt hlt (by omega) x y
  have htwo := (lead 32 192 (by decide)).digit
  have hthree := (lead 16 224 (by decide)).digit.digit
  have hfour := (lead 8 240 (by decide)).digit.digit.digit
  simp only [Nat.div_div_eq_div_mul] at hthree hfour
  -- between two lengths it is the first byte that tells
  refine hone.orElse (htwo.orElse (hthree.orElse (hfour.mono (by decide)) ?_) ?_) ?_
  · intro m hm n hn hlt x y
    exact cons_ofNat_lt (by omega) (by omega) _ _
  · intro m hm n hn hlt x y
    split <;> exact cons_ofNat_lt (by omega) (by omega) _ _
  · intro m hm n hn hlt x y
    split
    · exact cons_ofNat_lt (by omega) (by omega) _ _
    · split <;> exact cons_ofNat_lt (by omega) (by omega) _ _

end KeepsOrder

/-! ## Texts -/

theorem utf8EncodeChar_append_lt {c d : Char} (h : c < d) (x y : List UInt8) :
    String.utf8EncodeChar c ++ x < String.utf8EncodeChar d ++ y := by
  have hd : d.val.toNat < 0x110000 := by
    have := d.valid
    simp only [UInt32.isValidChar, Nat.isValidChar] at this
    omega
  exact KeepsOrder.utf8 h hd x y

theorem flatMap_utf8EncodeChar_lt {cs ds : List Char} (h : cs < ds) :
    cs.flatMap String.utf8EncodeChar < ds.flatMap String.utf8EncodeChar := by
  induction cs generalizing ds with
  | nil =>
      cases ds with
      | nil => exact absurd h (List.not_lt_nil _)
      | cons d ds =>
          obtain ⟨b, bs, hb⟩ := List.exists_cons_of_ne_nil (String.utf8EncodeChar_ne_nil (c := d))
          rw [List.flatMap_cons, List.flatMap_nil, hb]
          exact List.nil_lt_cons _ _
  | cons c cs ih =>
      cases ds with
      | nil => exact absurd h (List.not_lt_nil _)
      | cons d ds =>
          rw [List.flatMap_cons, List.flatMap_cons]
          obtain hlt | ⟨rfl, hrest⟩ := List.cons_lt_cons_iff.1 h
          · exact utf8EncodeChar_append_lt hlt _ _
          · exact List.append_left_lt (ih hrest)

/-- A text that comes before another does so by its bytes. -/
theorem bytes_lt_of_lt {a b : String} (h : a < b) : bytes a < bytes b := by
  rw [bytes_eq_flatMap, bytes_eq_flatMap]
  exact flatMap_utf8EncodeChar_lt h

end Scaffold.Text
