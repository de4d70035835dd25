import Chronicle.Palette
import Chronicle.Proofs.Encodings
import Mathlib.Algebra.BigOperators.Fin
import Mathlib.Data.Nat.ModEq
import Mathlib.Tactic.Ring
/-!
# Colours of services

`Color.Spells` says which names stand for which colours, and `Palette.hash` is a polynomial in the
bytes of a name. The colour of a service is then the one that its hash picks among the names that
stand for a colour, and the others might as well not be there: `Palette.colorOf_ofNames`.
-/

namespace Chronicle

/-! ## Hexadecimal digits -/

namespace Hex

variable {c : Char} {cs ds : List Char} {n : Nat}

theorem digit?_bound : ∀ c : Char, c.toNat < 128 → ∀ d ∈ digit? c, d < 16 :=
  forall_ascii (by decide)

theorem digit?_lt (digit : digit? c = some n) : n < 16 :=
  digit?_bound c (digit?_ascii (by simp [digit])) n digit

theorem foldlM_eq (cs : List Char) (n : Nat) :
    cs.foldlM (fun n c => (digit? c).map (n * 16 + ·)) n =
      (value? cs).map (n * 16 ^ cs.length + ·) := by
  induction cs generalizing n with
  | nil => simp [value?]
  | cons c cs ih =>
    cases digit : digit? c with
    | none => simp [value?, digit]
    | some d =>
      simp only [value?, List.foldlM_cons, digit, Option.map_some, Option.bind_eq_bind,
        Option.bind_some]
      rw [ih (n * 16 + d), ih (0 * 16 + d), Option.map_map]
      congr 1
      funext v
      simp only [Function.comp_apply, List.length_cons]
      ring

theorem value?_append (cs ds : List Char) :
    value? (cs ++ ds) = (value? cs).bind fun high =>
      (value? ds).map (high * 16 ^ ds.length + ·) := by
  rw [value?, List.foldlM_append]
  simp only [foldlM_eq ds]
  rfl

theorem value?_cons (c : Char) (cs : List Char) :
    value? (c :: cs) = (digit? c).bind fun d => (value? cs).map (d * 16 ^ cs.length + ·) := by
  have one : value? [c] = digit? c := by simp [value?]
  rw [← one]
  exact value?_append [c] cs

theorem value?_lt (number : value? cs = some n) : n < 16 ^ cs.length := by
  induction cs generalizing n with
  | nil =>
    obtain rfl : 0 = n := Option.some.inj number
    simp
  | cons c cs ih =>
    rw [value?_cons] at number
    obtain ⟨d, digit, number⟩ := Option.bind_eq_some_iff.1 number
    obtain ⟨v, low, rfl⟩ := Option.map_eq_some_iff.1 number
    have high := Nat.mul_le_mul_right (16 ^ cs.length) (Nat.le_of_lt_succ (digit?_lt digit))
    have bound := ih low
    rw [List.length_cons, pow_succ]
    omega

theorem digit_of_value? (number : value? cs = some n) : ∀ c ∈ cs, (digit? c).isSome := by
  induction cs generalizing n with
  | nil => simp
  | cons c cs ih =>
    rw [value?_cons] at number
    obtain ⟨d, digit, number⟩ := Option.bind_eq_some_iff.1 number
    obtain ⟨v, low, -⟩ := Option.map_eq_some_iff.1 number
    exact List.forall_mem_cons.2 ⟨by simp [digit], ih low⟩

/-- Two digits and their value. -/
def IsByte (pair : List Char) (n : Nat) : Prop := pair.length = 2 ∧ value? pair = some n

theorem IsByte.lt {pair : List Char} (byte : IsByte pair n) : n < 256 := by
  have bound := value?_lt byte.2
  rwa [byte.1] at bound

/-- Three bytes are a number to base 256. -/
theorem value?_bytes {first second third : List Char} (two : second.length = 2)
    (two' : third.length = 2) : value? (first ++ second ++ third) = some n ↔
      ∃ r g b, value? first = some r ∧ value? second = some g ∧ value? third = some b ∧
        n = (r * 256 + g) * 256 + b := by
  rw [value?_append, value?_append, two, two']
  simp only [Option.bind_eq_some_iff, Option.map_eq_some_iff]
  constructor
  · rintro ⟨rg, ⟨r, red, g, green, rfl⟩, b, blue, rfl⟩
    exact ⟨r, g, b, red, green, blue, rfl⟩
  · rintro ⟨r, g, b, red, green, blue, rfl⟩
    exact ⟨r * 256 + g, ⟨r, red, g, green, rfl⟩, b, blue, rfl⟩

end Hex

/-! ## Decimal digits -/

theorem Decimal.isDigit_ascii {c : Char} (digit : isDigit c = true) : c.toNat < 128 := by
  simp only [isDigit, Bool.and_eq_true, decide_eq_true_eq, Char.le_def,
    UInt32.le_iff_toNat_le] at digit
  exact Nat.lt_of_le_of_lt digit.2 (by decide)

theorem Decimal.natural?_eq_some_iff {cs : List Char} {n : Nat} :
    natural? cs = some n ↔ cs ≠ [] ∧ (∀ c ∈ cs, isDigit c = true) ∧ value cs = n := by
  simp [natural?, and_assoc]

theorem Decimal.unsigned?_eq_some_iff {bound n : Nat} {cs : List Char} :
    unsigned? bound cs = some n ↔
      ∃ sign ds, (sign = [] ∨ sign = ['+']) ∧ cs = sign ++ ds ∧ ds ≠ [] ∧
        (∀ d ∈ ds, isDigit d = true) ∧ value ds = n ∧ n ≤ bound := by
  constructor
  · intro read
    unfold unsigned? at read
    obtain ⟨number, small⟩ := Option.filter_eq_some_iff.1 read
    have small : n ≤ bound := of_decide_eq_true small
    split at number
    · next rest =>
      obtain ⟨some_digit, decimal, same⟩ := natural?_eq_some_iff.1 number
      exact ⟨['+'], rest, .inr rfl, rfl, some_digit, decimal, same, small⟩
    · obtain ⟨some_digit, decimal, same⟩ := natural?_eq_some_iff.1 number
      exact ⟨[], cs, .inl rfl, rfl, some_digit, decimal, same, small⟩
  · rintro ⟨sign, ds, signed, rfl, some_digit, decimal, same, small⟩
    have number := natural?_eq_some_iff.2 ⟨some_digit, decimal, same⟩
    rcases signed with rfl | rfl
    · -- A digit is not taken for a sign.
      cases ds with
      | nil => contradiction
      | cons d ds =>
        have bare : d ≠ '+' := by
          rintro rfl
          exact absurd (decimal '+' List.mem_cons_self) (by decide)
        simp [unsigned?, bare, number, small]
    · simp [unsigned?, number, small]

/-! ## Names of colours -/

/-- The words and the colours they stand for. -/
def NamedColor.words : List (String × NamedColor) :=
  [("black", .black), ("red", .darkRed), ("green", .darkGreen), ("yellow", .darkYellow),
    ("blue", .darkBlue), ("magenta", .darkMagenta), ("cyan", .darkCyan), ("gray", .grey),
    ("grey", .grey), ("dark_gray", .darkGrey), ("darkgray", .darkGrey), ("dark_grey", .darkGrey),
    ("darkgrey", .darkGrey), ("light_red", .red), ("light_green", .green),
    ("light_yellow", .yellow), ("light_blue", .blue), ("light_magenta", .magenta),
    ("light_cyan", .cyan), ("white", .white)]

theorem NamedColor.ofWord?_eq_some_iff {w : String} {c : NamedColor} :
    ofWord? w = some c ↔ (w, c) ∈ words := by
  constructor
  · intro known
    unfold ofWord? at known
    split at known <;> simp_all [words]
  · have each : ∀ e ∈ words, ofWord? e.1 = some e.2 := by decide
    exact each (w, c)

namespace Color

/-- The colour that a text in lower case stands for: a word, `#` with three bytes in hexadecimal, or
`indexed:` with a number up to 255. -/
inductive Spells : List Char → Color → Prop where
  | word {w : String} {c : NamedColor} (listed : (w, c) ∈ NamedColor.words) :
      Spells w.toList (.named c)
  | parts {red green blue : List Char} {r g b : Nat} (first : Hex.IsByte red r)
      (second : Hex.IsByte green g) (third : Hex.IsByte blue b) :
      Spells ('#' :: (red ++ green ++ blue)) (.rgb r g b)
  | indexed {sign digits : List Char} (signed : sign = [] ∨ sign = ['+']) (some_digit : digits ≠ [])
      (decimal : ∀ d ∈ digits, Decimal.isDigit d = true) (small : Decimal.value digits ≤ 255) :
      Spells ("indexed:".toList ++ (sign ++ digits)) (.indexed (Decimal.value digits))

variable {cs s : List Char} {c : Color} {name : String}

theorem exists_pairs (six : cs.length = 6) : ∃ red green blue : List Char,
    red.length = 2 ∧ green.length = 2 ∧ blue.length = 2 ∧ cs = red ++ green ++ blue := by
  refine ⟨cs.take 2, (cs.drop 2).take 2, cs.drop 4, by simp; omega, by simp; omega,
    by simp; omega, ?_⟩
  have rest : (cs.drop 2).take 2 ++ cs.drop 4 = cs.drop 2 := by
    rw [← List.drop_drop (i := 2) (j := 2), List.take_append_drop]
  rw [List.append_assoc, rest, List.take_append_drop]

theorem ofHex?_eq_some_iff : ofHex? cs = some c ↔ ∃ red green blue r g b,
    Hex.IsByte red r ∧ Hex.IsByte green g ∧ Hex.IsByte blue b ∧ cs = red ++ green ++ blue ∧
      c = .rgb r g b := by
  have parts {r g b : Nat} (second : g < 256) (third : b < 256) :
      Color.rgb (((r * 256 + g) * 256 + b) / 65536) (((r * 256 + g) * 256 + b) / 256 % 256)
        (((r * 256 + g) * 256 + b) % 256) = .rgb r g b := by
    congr 1 <;> omega
  constructor
  · intro read
    unfold ofHex? at read
    split at read
    · next six =>
      obtain ⟨n, number, rfl⟩ := Option.map_eq_some_iff.1 read
      obtain ⟨red, green, blue, two, two', two'', rfl⟩ := exists_pairs six
      obtain ⟨r, g, b, first, second, third, rfl⟩ := (Hex.value?_bytes two' two'').1 number
      exact ⟨red, green, blue, r, g, b, ⟨two, first⟩, ⟨two', second⟩, ⟨two'', third⟩, rfl,
        parts (Hex.IsByte.lt ⟨two', second⟩) (Hex.IsByte.lt ⟨two'', third⟩)⟩
    · cases read
  · rintro ⟨red, green, blue, r, g, b, first, second, third, rfl, rfl⟩
    have number := (Hex.value?_bytes second.1 third.1).2
      ⟨r, g, b, first.2, second.2, third.2, rfl⟩
    have six : (red ++ green ++ blue).length = 6 := by simp [first.1, second.1, third.1]
    rw [ofHex?, if_pos six, number, Option.map_some, parts second.lt third.lt]

/-- No word begins like the other names. -/
theorem not_word (mark : s.head? = some '#' ∨ s.head? = some 'i') :
    NamedColor.ofWord? (String.ofList s) = none := by
  have others : ∀ e ∈ NamedColor.words,
      e.1.toList.head? ≠ some '#' ∧ e.1.toList.head? ≠ some 'i' := by
    decide
  rw [Option.eq_none_iff_forall_not_mem]
  intro c known
  have other := others _ (NamedColor.ofWord?_eq_some_iff.1 known)
  rw [String.toList_ofList] at other
  exact mark.elim other.1 other.2

/-- A text stands for the colour that it spells, and for no other. -/
theorem ofLowered?_eq_some_iff : ofLowered? s = some c ↔ Spells s c := by
  unfold ofLowered?
  constructor
  · intro read
    split at read
    · next word known =>
      obtain rfl := Option.some.inj read
      have spelled := Spells.word (NamedColor.ofWord?_eq_some_iff.1 known)
      rwa [String.toList_ofList] at spelled
    split at read
    · next digits marked =>
      obtain rfl := List.isPrefixOf?_eq_some_iff_append_eq.1 marked
      obtain ⟨red, green, blue, r, g, b, first, second, third, rfl, rfl⟩ :=
        ofHex?_eq_some_iff.1 read
      exact .parts first second third
    split at read
    · next number marked =>
      obtain rfl := List.isPrefixOf?_eq_some_iff_append_eq.1 marked
      obtain ⟨n, small, rfl⟩ := Option.map_eq_some_iff.1 read
      obtain ⟨sign, digits, signed, rfl, some_digit, decimal, rfl, small⟩ :=
        Decimal.unsigned?_eq_some_iff.1 small
      exact .indexed signed some_digit decimal small
    · cases read
  · intro spelled
    cases spelled with
    | @word w c listed => rw [String.ofList_toList, NamedColor.ofWord?_eq_some_iff.2 listed]
    | @parts red green blue r g b first second third =>
      have marked : ['#'].isPrefixOf? ('#' :: (red ++ green ++ blue)) =
          some (red ++ green ++ blue) := List.isPrefixOf?_eq_some_iff_append_eq.2 rfl
      rw [not_word (.inl rfl), marked]
      exact ofHex?_eq_some_iff.2 ⟨red, green, blue, r, g, b, first, second, third, rfl, rfl⟩
    | @indexed sign digits signed some_digit decimal small =>
      have marked : "indexed:".toList.isPrefixOf? ("indexed:".toList ++ (sign ++ digits)) =
          some (sign ++ digits) := List.isPrefixOf?_eq_some_iff_append_eq.2 rfl
      have unmarked : ['#'].isPrefixOf? ("indexed:".toList ++ (sign ++ digits)) = none := rfl
      rw [not_word (.inr rfl), unmarked, marked]
      exact Option.map_eq_some_iff.2 ⟨_, Decimal.unsigned?_eq_some_iff.2
        ⟨sign, digits, signed, rfl, some_digit, decimal, rfl, small⟩, rfl⟩

/-- A colour can be had from the name. -/
def Usable (name : String) : Prop := ∃ c, Spells (lowered name) c

theorem isSome_ofName?_iff : (ofName? name).isSome = true ↔ Usable name := by
  simp only [Option.isSome_iff_exists, ofName?, ofLowered?_eq_some_iff, Usable]

instance : DecidablePred Usable := fun _ => decidable_of_iff _ isSome_ofName?_iff

/-- A text is decided to be ASCII one character after the other. -/
theorem ascii_of_all {cs : List Char} (all : cs.all (·.toNat < 128) = true) :
    ∀ ch ∈ cs, ch.toNat < 128 := by
  simpa using all

theorem Spells.ascii (spelled : Spells s c) : ∀ ch ∈ s, ch.toNat < 128 := by
  cases spelled with
  | word listed =>
    have each : ∀ e ∈ NamedColor.words, e.1.toList.all (·.toNat < 128) = true := by decide +kernel
    exact ascii_of_all (each _ listed)
  | parts first second third =>
    have byte {pair : List Char} {n : Nat} (h : Hex.IsByte pair n) :
        ∀ ch ∈ pair, ch.toNat < 128 := fun ch mem =>
      Hex.digit?_ascii (Hex.digit_of_value? h.2 ch mem)
    refine List.forall_mem_cons.2 ⟨by decide, ?_⟩
    exact List.forall_mem_append.2 ⟨List.forall_mem_append.2 ⟨byte first, byte second⟩, byte third⟩
  | @indexed sign digits signed _ decimal =>
    have mark : ∀ ch ∈ "indexed:".toList, ch.toNat < 128 := ascii_of_all (by decide +kernel)
    have signs : ∀ ch ∈ sign, ch.toNat < 128 := by
      rcases signed with rfl | rfl <;> exact ascii_of_all (by decide)
    have digits := fun ch mem => Decimal.isDigit_ascii (decimal ch mem)
    exact List.forall_mem_append.2 ⟨mark, List.forall_mem_append.2 ⟨signs, digits⟩⟩

theorem lowerAscii_beyond {ch : Char} (beyond : 128 ≤ ch.toNat) : lowerAscii ch = ch := by
  refine if_neg ?_
  rintro ⟨-, le⟩
  simp only [Char.le_def, UInt32.le_iff_toNat_le] at le
  have bound : ch.toNat ≤ 90 := le
  omega

/-- Names beyond ASCII stand for no colour. -/
theorem Usable.ascii (usable : Usable name) : ∀ ch ∈ name.toList, ch.toNat < 128 := by
  obtain ⟨c, spelled⟩ := usable
  intro ch mem
  by_contra beyond
  have kept := lowerAscii_beyond (Nat.le_of_not_lt beyond)
  exact beyond (kept ▸ spelled.ascii (lowerAscii ch) (List.mem_map_of_mem mem))

end Color

/-! ## Cutting at bytes -/

/-- The text from a byte on. There is none if that byte is inside a character or after the end. -/
def Utf8.sliceFrom? : Nat → List Char → Option (List Char)
  | 0, s => some s
  | _ + 1, [] => none
  | n + 1, c :: s =>
    if c.utf8Size ≤ n + 1 then sliceFrom? (n + 1 - c.utf8Size) s else none

theorem Utf8.sliceFrom?_encode (s t : List Char) :
    sliceFrom? (encode s).length (s ++ t) = some t := by
  induction s with
  | nil => simp [sliceFrom?]
  | cons c s ih =>
    have size : (encode (c :: s)).length = c.utf8Size + (encode s).length := by simp
    have some_bytes := c.utf8Size_pos
    obtain ⟨n, bytes⟩ : ∃ n, (encode (c :: s)).length = n + 1 :=
      Nat.exists_eq_succ_of_ne_zero (by omega)
    have rest : n + 1 - c.utf8Size = (encode s).length := by omega
    rw [bytes, List.cons_append, sliceFrom?, if_pos (by omega), rest, ih]

namespace Palette

/-! ## The hash -/

/-- The bytes as digits to base 31. -/
def weighted (bs : List UInt8) : Nat :=
  ∑ i : Fin bs.length, bs[i].toNat * 31 ^ (bs.length - 1 - i)

/-- The number 5381, and after it the bytes as digits to base 31. -/
def polynomial (bs : List UInt8) : Nat := 5381 * 31 ^ bs.length + weighted bs

theorem weighted_cons (b : UInt8) (bs : List UInt8) :
    weighted (b :: bs) = b.toNat * 31 ^ bs.length + weighted bs := by
  refine (Fin.sum_univ_succ _).trans (congrArg _ (Finset.sum_congr rfl fun i _ => ?_))
  have exponent : (b :: bs).length - 1 - i.succ = bs.length - 1 - i := by simp; omega
  rw [exponent]
  rfl

theorem foldl_mod (m start : Nat) (bs : List UInt8) :
    bs.foldl (fun h b => (h * 31 + b.toNat) % m) start % m =
      (start * 31 ^ bs.length + weighted bs) % m := by
  induction bs generalizing start with
  | nil => simp [weighted]
  | cons b bs ih =>
    rw [List.foldl_cons, ih, weighted_cons, List.length_cons, pow_succ]
    have step : ((start * 31 + b.toNat) % m * 31 ^ bs.length + weighted bs) % m =
        ((start * 31 + b.toNat) * 31 ^ bs.length + weighted bs) % m :=
      ((Nat.mod_modEq _ m).mul_right _).add_right _
    rw [step]
    congr 1
    ring

theorem foldl_lt {m start : Nat} (least : start < m) (bs : List UInt8) :
    bs.foldl (fun h b => (h * 31 + b.toNat) % m) start < m := by
  induction bs generalizing start with
  | nil => exact least
  | cons b bs ih => exact ih (Nat.mod_lt _ (by omega))

/-- The hash is a polynomial in the bytes, in 64 bits. -/
theorem hash_eq (service : String) :
    hash service = polynomial (Utf8.bytes service) % 2 ^ 64 := by
  have bound : hash service < 2 ^ 64 := foldl_lt (by decide) _
  rw [← Nat.mod_eq_of_lt bound]
  exact foldl_mod (2 ^ 64) 5381 (Utf8.bytes service)

/-! ## Picking a colour -/

variable {names others : List String} {service : String} {c : Color}

/-- The names that a colour can be had from. -/
def usable (names : List String) : List String := names.filter Color.Usable

/-- The place of a service among so many colours. -/
def place (service : String) (colors : Nat) : Nat :=
  polynomial (Utf8.bytes service) % 2 ^ 64 % colors

/-- The colours of a palette are those of the usable names, in order. -/
theorem map_usable (names : List String) :
    (usable names).map Color.ofName? = (ofNames names).colors.map some := by
  induction names with
  | nil => rfl
  | cons name names ih =>
    simp only [usable, ofNames] at ih ⊢
    cases known : Color.ofName? name with
    | none =>
      have unusable : ¬ Color.Usable name := by simp [← Color.isSome_ofName?_iff, known]
      simpa [unusable, known] using ih
    | some c =>
      have usable : Color.Usable name := by simp [← Color.isSome_ofName?_iff, known]
      simpa [usable, known] using ih

theorem colorOf_eq_some_iff : (ofNames names).colorOf service = some c ↔
    ∃ name, (usable names)[place service (usable names).length]? = some name ∧
      Color.Spells (Color.lowered name) c := by
  have known := map_usable names
  have count : (usable names).length = (ofNames names).colors.length := by
    simpa using congrArg List.length known
  have at_place : (usable names)[place service (usable names).length]?.map Color.ofName? =
      (ofNames names).colors[place service (usable names).length]?.map some := by
    rw [← List.getElem?_map, ← List.getElem?_map, known]
  have picked : (ofNames names).colorOf service =
      (ofNames names).colors[place service (usable names).length]? := by
    rw [colorOf, hash_eq, count, place]
  have doubled (o : Option Color) : o = some c ↔ o.map some = some (some c) := by simp
  rw [picked, doubled, ← at_place, Option.map_eq_some_iff]
  exact exists_congr fun name => and_congr_right fun _ => Color.ofLowered?_eq_some_iff

/-- Without the names that stand for no colour the palette is the same. -/
theorem ofNames_unusable (before more after : List String)
    (unusable : ∀ name ∈ more, ¬ Color.Usable name) :
    ofNames (before ++ more ++ after) = ofNames (before ++ after) := by
  have nothing : more.filterMap Color.ofName? = [] := by
    rw [List.filterMap_eq_nil_iff]
    intro name mem
    rw [← Option.not_isSome_iff_eq_none, Color.isSome_ofName?_iff]
    exact unusable name mem
  simp [ofNames, nothing]

theorem ofNames_lowered (same : others.map Color.lowered = names.map Color.lowered) :
    ofNames others = ofNames names := by
  have lower (names : List String) :
      ofNames names = ⟨(names.map Color.lowered).filterMap Color.ofLowered?⟩ := by
    rw [ofNames, List.filterMap_map]
    rfl
  rw [lower, lower, same]

/-- A service has the colour of the usable name at its place among the usable names, and none if
there are none. Names that stand for no colour do not matter, and among those are all that have a
character beyond ASCII; neither does the case of letters. What is read after the mark of a name
begins with a whole character. -/
theorem colorOf_ofNames (names : List String) (service : String) :
    ((ofNames names).colorOf service = none ↔ ∀ name ∈ names, ¬ Color.Usable name) ∧
    (∀ c, (ofNames names).colorOf service = some c ↔
      ∃ name, (usable names)[place service (usable names).length]? = some name ∧
        Color.Spells (Color.lowered name) c) ∧
    (∀ before more after, names = before ++ more ++ after →
      (∀ name ∈ more, ¬ Color.Usable name) →
      (ofNames names).colorOf service = (ofNames (before ++ after)).colorOf service) ∧
    (∀ name, Color.Usable name → ∀ ch ∈ name.toList, ch.toNat < 128) ∧
    (∀ others, others.map Color.lowered = names.map Color.lowered →
      (ofNames others).colorOf service = (ofNames names).colorOf service) ∧
    (∀ mark s rest : List Char, mark.isPrefixOf? s = some rest →
      Utf8.sliceFrom? (Utf8.encode mark).length s = some rest) := by
  refine ⟨?_, fun c => colorOf_eq_some_iff, ?_, fun name => Color.Usable.ascii, ?_, ?_⟩
  · rw [colorOf_eq_none_iff, ofNames, List.filterMap_eq_nil_iff]
    simp only [← Color.isSome_ofName?_iff, Option.not_isSome_iff_eq_none]
  · rintro before more after rfl unusable
    rw [ofNames_unusable before more after unusable]
  · intro others same
    rw [ofNames_lowered same]
  · intro mark s rest read
    rw [← List.isPrefixOf?_eq_some_iff_append_eq.1 read]
    exact Utf8.sliceFrom?_encode mark rest

/-- Five names, of which three stand for a colour. -/
def mixed : List String := ["#aé123", "Red", "#FF0080", "chartreuse", "Indexed:+07"]

theorem mixed_colorOf :
    (ofNames mixed).colorOf "web" = some (.indexed 7) ∧
    (ofNames ["Red", "#FF0080", "chartreuse", "Indexed:+07"]).colorOf "web" =
      some (.indexed 7) ∧
    (ofNames ["#Aé123", "RED", "#ff0080", "Chartreuse", "INDEXED:+07"]).colorOf "web" =
      some (.indexed 7) := by
  obtain ⟨-, picks, skips, -, lowers, -⟩ := colorOf_ofNames mixed "web"
  have spelled : Color.Spells (Color.lowered "Indexed:+07") (.indexed 7) :=
    Color.ofLowered?_eq_some_iff.1 (by decide +kernel)
  have picked : (ofNames mixed).colorOf "web" = some (.indexed 7) :=
    (picks (.indexed 7)).2 ⟨"Indexed:+07", by decide +kernel, spelled⟩
  refine ⟨picked, ?_, ?_⟩
  · rw [← picked]
    exact (skips [] ["#aé123"] _ rfl (by decide +kernel)).symm
  · rw [lowers _ (by decide +kernel), picked]

end Palette

end Chronicle
