/-
# Proofs.Text.Base64Url -- what is encoded can be decoded

The letters of three octets are four sextets, which the decoder gathers into a group and
turns back into the octets; the last letters are fewer and get their group from the
padding that is supplied for them.  The letters are ASCII and none is a dot.
-/
import GeoRegistry.Text.Base64Url
import GeoRegistry.Proofs.Text.Utf8

namespace GeoRegistry.Text.Base64Url

set_option autoImplicit false

/-! ## Letters -/

/-- The octet of the letter of six bits. -/
def letterOctet (n : Nat) : UInt8 :=
  (letter n).toUInt8

theorem sextet?_letterOctet {n : Nat} (small : n < 64) : sextet? (letterOctet n) = some n := by
  have all : ∀ n : Fin 64, sextet? (letterOctet n) = some n.val := by decide
  exact all ⟨n, small⟩

theorem letterOctet_ne_pad {n : Nat} (small : n < 64) : letterOctet n ≠ pad := by
  have all : ∀ n : Fin 64, letterOctet n ≠ pad := by decide
  exact all ⟨n, small⟩

/-- Letters are ASCII, and no dots. -/
theorem letter_plain {n : Nat} (small : n < 64) : (letter n).toNat < 0x80 ∧ letter n ≠ '.' := by
  have all : ∀ n : Fin 64, (letter n).toNat < 0x80 ∧ letter n ≠ '.' := by decide
  exact all ⟨n, small⟩

theorem letters_plain (octets : List UInt8) :
    ∀ c ∈ letters octets, c.toNat < 0x80 ∧ c ≠ '.' := by
  induction octets using letters.induct with
  | case1 a b c rest ih =>
      have := a.toNat_lt
      have := b.toNat_lt
      have := c.toNat_lt
      intro c' member
      simp only [letters, List.mem_cons] at member
      rcases member with rfl | rfl | rfl | rfl | member
      · exact letter_plain (by omega)
      · exact letter_plain (by omega)
      · exact letter_plain (by omega)
      · exact letter_plain (by omega)
      · exact ih _ member
  | case2 a b =>
      have := a.toNat_lt
      have := b.toNat_lt
      intro c' member
      simp only [letters, List.mem_cons, List.not_mem_nil, or_false] at member
      rcases member with rfl | rfl | rfl
      · exact letter_plain (by omega)
      · exact letter_plain (by omega)
      · exact letter_plain (by omega)
  | case3 a =>
      have := a.toNat_lt
      intro c' member
      simp only [letters, List.mem_cons, List.not_mem_nil, or_false] at member
      rcases member with rfl | rfl
      · exact letter_plain (by omega)
      · exact letter_plain (by omega)
  | case4 => simp [letters]

/-- The octets of what is written are those of its letters. -/
theorem encode_octets (octets : List UInt8) :
    Utf8.encode (encode octets) = (letters octets).map Char.toUInt8 :=
  Utf8.encode_ascii fun c member => (letters_plain octets c member).1

/-! ## Groups -/

/-- A letter that does not fill its group joins it. -/
theorem decodeFrom_letter {n : Nat} (small : n < 64) (groups pads : Nat) {group : List Nat}
    (short : group.length < 3) (rest : List UInt8) :
    decodeFrom groups group pads (letterOctet n :: rest) =
      decodeFrom groups (group ++ [n]) 0 rest := by
  have more : group.length ≠ 3 := by omega
  rw [decodeFrom, if_neg (letterOctet_ne_pad small)]
  simp [sextet?_letterOctet small, more]

/-- **Four letters are a group.** -/
theorem decodeFrom_group {p q r s : Nat} (hp : p < 64) (hq : q < 64) (hr : r < 64) (hs : s < 64)
    (groups pads : Nat) (rest : List UInt8) :
    decodeFrom groups [] pads
        (letterOctet p :: letterOctet q :: letterOctet r :: letterOctet s :: rest) =
      (decodeFrom (groups + 1) [] 0 rest).map (ofGroup [p, q, r, s] ++ ·) := by
  rw [decodeFrom_letter hp _ _ (by simp), decodeFrom_letter hq _ _ (by simp),
    decodeFrom_letter hr _ _ (by simp), decodeFrom, if_neg (letterOctet_ne_pad hs)]
  simp [sextet?_letterOctet hs]

/-- Padding that completes a group ends the text. -/
theorem decodeFrom_complete (groups pads : Nat) {group : List Nat} (begun : 2 ≤ group.length)
    (full : 4 ≤ group.length + pads + 1) (rest : List UInt8) :
    decodeFrom groups group pads (pad :: rest) = .ok (ofGroup group) := by
  rw [decodeFrom, if_pos rfl, if_neg (by omega), if_pos full]

/-- Padding that does not complete a group is counted. -/
theorem decodeFrom_pad (groups pads : Nat) {group : List Nat} (begun : 2 ≤ group.length)
    (open_ : group.length + pads + 1 < 4) (rest : List UInt8) :
    decodeFrom groups group pads (pad :: rest) = decodeFrom groups group (pads + 1) rest := by
  rw [decodeFrom, if_pos rfl, if_neg (by omega), if_neg (by omega)]

section Octets

variable (a b c : UInt8)

/-! The sextets of one, two or three octets are those of a number that holds the octets,
and as many bits behind them as fill up the last sextet. -/

theorem ofGroup_one :
    ofGroup [a.toNat * 16 / 64, a.toNat * 16 % 64] = [a] := by
  have ha := a.toNat_lt
  simp only [ofGroup, List.cons.injEq, and_true, ← UInt8.toNat_inj, UInt8.toNat_ofNat']
  omega

theorem ofGroup_two {n : Nat} (held : n = a.toNat * 1024 + b.toNat * 4) :
    ofGroup [n / 4096, n / 64 % 64, n % 64] = [a, b] := by
  have ha := a.toNat_lt
  have hb := b.toNat_lt
  simp only [ofGroup, List.cons.injEq, and_true, ← UInt8.toNat_inj, UInt8.toNat_ofNat']
  omega

theorem ofGroup_three {n : Nat} (held : n = a.toNat * 65536 + b.toNat * 256 + c.toNat) :
    ofGroup [n / 262144, n / 4096 % 64, n / 64 % 64, n % 64] = [a, b, c] := by
  have ha := a.toNat_lt
  have hb := b.toNat_lt
  have hc := c.toNat_lt
  simp only [ofGroup, List.cons.injEq, and_true, ← UInt8.toNat_inj, UInt8.toNat_ofNat']
  omega

end Octets

/-! ## Texts -/

/-- The padding that a number of letters lacks. -/
def padding (letters : Nat) : List UInt8 :=
  List.replicate ((4 - letters % 4) % 4) pad

theorem padding_add_four (letters : Nat) : padding (letters + 4) = padding letters := by
  rw [padding, Nat.add_mod_right, padding]

theorem decodeFrom_letters (octets : List UInt8) (groups : Nat) :
    decodeFrom groups [] 0
        ((letters octets).map Char.toUInt8 ++ padding (letters octets).length) = .ok octets := by
  induction octets using letters.induct generalizing groups with
  | case1 a b c rest ih =>
      have ha := a.toNat_lt
      have hb := b.toNat_lt
      have hc := c.toNat_lt
      have same : padding (letters (a :: b :: c :: rest)).length = padding (letters rest).length :=
        padding_add_four _
      rw [same]
      simp only [letters, List.map_cons, List.cons_append, ← letterOctet.eq_1]
      rw [decodeFrom_group (by omega) (by omega) (by omega) (by omega), ih, ofGroup_three a b c rfl]
      rfl
  | case2 a b =>
      have ha := a.toNat_lt
      have hb := b.toNat_lt
      have one : padding (letters [a, b]).length = [pad] := rfl
      rw [one]
      simp only [letters, List.map_cons, List.map_nil, List.cons_append, List.nil_append,
        ← letterOctet.eq_1]
      rw [decodeFrom_letter (by omega) _ _ (by simp), decodeFrom_letter (by omega) _ _ (by simp),
        decodeFrom_letter (by omega) _ _ (by simp), decodeFrom_complete _ _ (by simp) (by simp)]
      exact congrArg Except.ok (ofGroup_two a b rfl)
  | case3 a =>
      have ha := a.toNat_lt
      have two : padding (letters [a]).length = [pad, pad] := rfl
      rw [two]
      simp only [letters, List.map_cons, List.map_nil, List.cons_append, List.nil_append,
        ← letterOctet.eq_1]
      rw [decodeFrom_letter (by omega) _ _ (by simp), decodeFrom_letter (by omega) _ _ (by simp),
        decodeFrom_pad _ _ (by simp) (by simp), decodeFrom_complete _ _ (by simp) (by simp)]
      exact congrArg Except.ok (ofGroup_one a)
  | case4 => rfl

/-- **What is encoded can be decoded.** -/
theorem decode?_encode (octets : List UInt8) :
    decode? (Utf8.encode (encode octets)) = some octets := by
  have read := decodeFrom_letters octets 0
  rw [encode_octets, decode?, decode, padded, List.length_map]
  rw [padding] at read
  rw [read]
  rfl

end GeoRegistry.Text.Base64Url
