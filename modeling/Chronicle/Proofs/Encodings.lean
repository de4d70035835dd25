import Chronicle.Json.Value
import Chronicle.Text.Percent
/-!
# Encodings that are read back

What is written as UTF-8, in percent encoding or as a JSON string is read back as it was:
`Utf8.decode_encode`, `Percent.decode?_encode` and `Json.value_of_quote`.
-/

namespace Chronicle

/-- What holds of the first 128 code points holds of every ASCII character. -/
theorem forall_ascii {P : Char → Prop} (each : ∀ n < 128, P (Char.ofNat n)) :
    ∀ c : Char, c.toNat < 128 → P c := by
  intro c ascii
  have known := each c.toNat ascii
  rwa [Char.ofNat_toNat] at known

theorem Hex.digit?_ascii {c : Char} (digit : (Hex.digit? c).isSome) : c.toNat < 128 := by
  unfold Hex.digit? at digit
  simp only [Char.le_def, UInt32.le_iff_toNat_le] at digit
  split at digit
  · next decimal => exact Nat.lt_of_le_of_lt decimal.2 (by decide)
  split at digit
  · next small => exact Nat.lt_of_le_of_lt small.2 (by decide)
  split at digit
  · next large => exact Nat.lt_of_le_of_lt large.2 (by decide)
  · cases digit

namespace Utf8

/-! ## Characters as bytes -/

theorem decodeFrom_char {b : UInt8} {c : Char} (starts : lead b = .char c) (rest : List UInt8) :
    decodeFrom none (b :: rest) = c :: decodeFrom none rest := by
  rw [decodeFrom, starts]

theorem decodeFrom_start {b : UInt8} {p : Partial} (starts : lead b = .start p)
    (rest : List UInt8) : decodeFrom none (b :: rest) = decodeFrom (some p) rest := by
  rw [decodeFrom, starts]

/-- A byte after the first one, which carries six bits. -/
def tail (bits : Nat) : UInt8 := UInt8.ofNat (bits + 128)

theorem tail_toNat {bits : Nat} (few : bits < 64) : (tail bits).toNat = bits + 128 :=
  Nat.mod_eq_of_lt (by omega)

variable {code left low high bits : Nat}

theorem accepts_tail (few : bits < 64) (above : low ≤ bits + 128) (below : bits + 128 ≤ high) :
    (Partial.mk code left low high).accepts (tail bits) = true := by
  rw [Partial.accepts, tail_toNat few, decide_eq_true above, decide_eq_true below, Bool.and_self]

theorem extend_tail (few : bits < 64) :
    (Partial.mk code left low high).extend (tail bits) = code * 64 + bits := by
  have byte := tail_toNat few
  show code * 64 + ((tail bits).toNat - 0x80) = code * 64 + bits
  omega

theorem decodeFrom_more (few : bits < 64) (above : low ≤ bits + 128) (below : bits + 128 ≤ high)
    (rest : List UInt8) :
    decodeFrom (some ⟨code, left + 2, low, high⟩) (tail bits :: rest) =
      decodeFrom (some ⟨code * 64 + bits, left + 1, 0x80, 0xBF⟩) rest := by
  rw [decodeFrom, if_pos (accepts_tail few above below), if_neg (by simp), extend_tail few]
  rfl

theorem decodeFrom_last (few : bits < 64) (above : low ≤ bits + 128) (below : bits + 128 ≤ high)
    (rest : List UInt8) :
    decodeFrom (some ⟨code, 1, low, high⟩) (tail bits :: rest) =
      Char.ofNat (code * 64 + bits) :: decodeFrom none rest := by
  rw [decodeFrom, if_pos (accepts_tail few above below), if_pos (Nat.le_refl 1), extend_tail few]

theorem lead_one : ∀ n < 128, lead (UInt8.ofNat n) = .char (Char.ofNat n) := by
  decide

theorem lead_two : ∀ k < 32, 2 ≤ k → lead (UInt8.ofNat (k + 192)) = .start ⟨k, 1, 0x80, 0xBF⟩ := by
  decide

theorem lead_three : ∀ k < 16, lead (UInt8.ofNat (k + 224)) =
    .start ⟨k, 2, if k = 0 then 0xA0 else 0x80, if k = 13 then 0x9F else 0xBF⟩ := by
  decide

theorem lead_four : ∀ k < 5, lead (UInt8.ofNat (k + 240)) =
    .start ⟨k, 3, if k = 0 then 0x90 else 0x80, if k = 4 then 0x8F else 0xBF⟩ := by
  decide

theorem decodeFrom_encodeChar (c : Char) (rest : List UInt8) :
    decodeFrom none (String.utf8EncodeChar c ++ rest) = c :: decodeFrom none rest := by
  have valid : c.toNat < 0xD800 ∨ 0xDFFF < c.toNat ∧ c.toNat < 0x110000 := c.valid
  have whole : Char.ofNat c.toNat = c := Char.ofNat_toNat c
  have code : c.val.toNat = c.toNat := rfl
  unfold String.utf8EncodeChar
  simp only [code]
  generalize c.toNat = n at *
  split
  · rw [List.singleton_append, decodeFrom_char (lead_one n (by omega)), whole]
  split
  · show decodeFrom none (UInt8.ofNat (n / 64 % 32 + 192) :: tail (n % 64) :: rest) = _
    have sum : n / 64 % 32 * 64 + n % 64 = n := by omega
    rw [decodeFrom_start (lead_two _ (by omega) (by omega)),
      decodeFrom_last (by omega) (by omega) (by omega), sum, whole]
  split
  · show decodeFrom none (UInt8.ofNat (n / 4096 % 16 + 224) :: tail (n / 64 % 64) ::
      tail (n % 64) :: rest) = _
    have sum : (n / 4096 % 16 * 64 + n / 64 % 64) * 64 + n % 64 = n := by omega
    rw [decodeFrom_start (lead_three _ (by omega)),
      decodeFrom_more (by omega) (by split <;> omega) (by split <;> omega),
      decodeFrom_last (by omega) (by omega) (by omega), sum, whole]
  · show decodeFrom none (UInt8.ofNat (n / 262144 % 8 + 240) :: tail (n / 4096 % 64) ::
      tail (n / 64 % 64) :: tail (n % 64) :: rest) = _
    have sum : ((n / 262144 % 8 * 64 + n / 4096 % 64) * 64 + n / 64 % 64) * 64 + n % 64 = n := by
      omega
    rw [decodeFrom_start (lead_four _ (by omega)),
      decodeFrom_more (by omega) (by split <;> omega) (by split <;> omega),
      decodeFrom_more (by omega) (by omega) (by omega),
      decodeFrom_last (by omega) (by omega) (by omega), sum, whole]

theorem encode_ascii {c : Char} (ascii : c.toNat < 128) (s : List Char) :
    encode (c :: s) = UInt8.ofNat c.toNat :: encode s := by
  have small : c.val.toNat ≤ 127 := Nat.le_of_lt_succ ascii
  rw [encode_cons, String.utf8EncodeChar, if_pos small]
  rfl

/-- The bytes of a character beyond ASCII all have their highest bit set. -/
theorem high_of_mem_encode {c : Char} {b : UInt8} (beyond : 128 ≤ c.toNat)
    (mem : b ∈ encode [c]) : 128 ≤ b.toNat := by
  have code : c.val.toNat = c.toNat := rfl
  simp only [encode_cons, encode_nil, List.append_nil, String.utf8EncodeChar, code] at mem
  generalize c.toNat = n at *
  rw [if_neg (by omega)] at mem
  split at mem
  · simp only [List.mem_cons, List.not_mem_nil, or_false] at mem
    rcases mem with rfl | rfl <;> simp <;> omega
  split at mem
  · simp only [List.mem_cons, List.not_mem_nil, or_false] at mem
    rcases mem with rfl | rfl | rfl <;> simp <;> omega
  · simp only [List.mem_cons, List.not_mem_nil, or_false] at mem
    rcases mem with rfl | rfl | rfl | rfl <;> simp <;> omega

/-- What is written is read back. -/
theorem decode_encode (s : List Char) : decode (encode s) = s := by
  induction s with
  | nil => rfl
  | cons c s ih => exact (decodeFrom_encodeChar c (encode s)).trans (congrArg (c :: ·) ih)

theorem decode?_encode (s : List Char) : decode? (encode s) = some s := by
  rw [decode?, decode_encode, if_pos rfl]

theorem text_bytes (s : String) : text (bytes s) = s := by
  rw [text, bytes, decode_encode, String.ofList_toList]

theorem bytes_injective {s s' : String} (same : bytes s = bytes s') : s = s' := by
  rw [← text_bytes s, same, text_bytes]

end Utf8

/-! ## Parts of a URL -/

namespace Percent

/-- Characters that stand for themselves. -/
def Unreserved (c : Char) : Prop := c.isAlphanum = true ∨ c ∈ ['-', '.', '_', '~']

instance (c : Char) : Decidable (Unreserved c) := inferInstanceAs (Decidable (_ ∨ _))

/-- Unreserved characters, and percent signs with two hexadecimal digits behind each. -/
inductive Encoded : List Char → Prop where
  | nil : Encoded []
  | plain {c : Char} {rest : List Char} (unreserved : Unreserved c) (more : Encoded rest) :
      Encoded (c :: rest)
  | triple {high low : Char} {rest : List Char} (first : (Hex.digit? high).isSome)
      (second : (Hex.digit? low).isSome) (more : Encoded rest) :
      Encoded ('%' :: high :: low :: rest)

theorem encoded_of_unreserved {s : List Char} (unreserved : ∀ c ∈ s, Unreserved c) : Encoded s := by
  induction s with
  | nil => exact .nil
  | cons c s ih =>
    obtain ⟨first, rest⟩ := List.forall_mem_cons.1 unreserved
    exact .plain first (ih rest)

/-- A word that can be checked character by character. -/
theorem encoded_word {s : List Char} (unreserved : s.all fun c => decide (Unreserved c)) :
    Encoded s :=
  encoded_of_unreserved fun c mem => of_decide_eq_true (List.all_eq_true.1 unreserved c mem)

theorem digit?_upper : ∀ n < 16, Hex.digit? (Hex.upper n) = some n := by decide

theorem unreserved_byte : ∀ n < 256, isUnreserved (UInt8.ofNat n) = true →
    Unreserved (Char.ofNat n) ∧ n < 128 ∧ (Char.ofNat n).toNat = n := by
  decide +kernel

/-- A byte is written as itself or as a triple, and both are read as that byte. -/
theorem encodeByte_cases (b : UInt8) :
    (∃ c, encodeByte b = [c] ∧ Unreserved c ∧
        ∀ rest, decode? (c :: rest) = (decode? rest).map (b :: ·)) ∨
      ∃ high low, encodeByte b = ['%', high, low] ∧ (Hex.digit? high).isSome ∧
        (Hex.digit? low).isSome ∧
        ∀ rest, decode? ('%' :: high :: low :: rest) = (decode? rest).map (b :: ·) := by
  have whole : UInt8.ofNat b.toNat = b := UInt8.ofNat_toNat
  have byte : b.toNat < 256 := b.toNat_lt
  by_cases plain : isUnreserved b = true
  · obtain ⟨unreserved, ascii, code⟩ := unreserved_byte b.toNat byte (whole.symm ▸ plain)
    refine .inl ⟨Char.ofNat b.toNat, if_pos plain, unreserved, fun rest => ?_⟩
    have percent : Char.ofNat b.toNat ≠ '%' := by
      intro same
      rw [same] at unreserved
      revert unreserved
      decide
    rw [decode?]
    · rw [code, whole, if_pos ⟨ascii, plain⟩]
    · exact fun _ _ _ same _ => percent same
  · have high := digit?_upper (b.toNat / 16) (by omega)
    have low := digit?_upper (b.toNat % 16) (by omega)
    have digits : b.toNat / 16 * 16 + b.toNat % 16 = b.toNat := by omega
    refine .inr ⟨_, _, if_neg plain, by rw [high]; rfl, by rw [low]; rfl, fun rest => ?_⟩
    rw [decode?, high, low]
    simp only [Option.bind_eq_bind, Option.bind_some, digits, whole]
    cases decode? rest <;> rfl

theorem encoded_flatMap (bs : List UInt8) : Encoded (bs.flatMap encodeByte) := by
  induction bs with
  | nil => exact .nil
  | cons b bs ih =>
    rw [List.flatMap_cons]
    rcases encodeByte_cases b with ⟨c, written, unreserved, -⟩ | ⟨high, low, written, first, second, -⟩
    · exact written ▸ .plain unreserved ih
    · exact written ▸ .triple first second ih

theorem decode?_flatMap (bs : List UInt8) : decode? (bs.flatMap encodeByte) = some bs := by
  induction bs with
  | nil => rfl
  | cons b bs ih =>
    rw [List.flatMap_cons]
    rcases encodeByte_cases b with ⟨c, written, -, read⟩ | ⟨high, low, written, -, -, read⟩
    · rw [written, List.singleton_append, read, ih, Option.map_some]
    · rw [written, List.cons_append, List.cons_append, List.singleton_append, read, ih,
        Option.map_some]

theorem encoded_encode (s : String) : Encoded (encode s) := encoded_flatMap _

theorem decode?_encode (s : String) : decode? (encode s) = some (Utf8.bytes s) := decode?_flatMap _

theorem encode_injective {s s' : String} (same : encode s = encode s') : s = s' :=
  Utf8.bytes_injective (Option.some.inj (by rw [← decode?_encode, ← decode?_encode, same]))

theorem unreserved_ascii :
    ∀ c : Char, c.toNat < 128 → (Hex.digit? c).isSome → Unreserved c :=
  forall_ascii (by decide)

theorem unreserved_of_digit {c : Char} (digit : (Hex.digit? c).isSome) : Unreserved c :=
  unreserved_ascii c (Hex.digit?_ascii digit) digit

/-- Reserved characters other than the percent sign are nowhere in an encoded text. -/
theorem Encoded.notMem {c : Char} {part : List Char} (encoded : Encoded part)
    (reserved : ¬ Unreserved c) (percent : c ≠ '%') : c ∉ part := by
  induction encoded with
  | nil => exact List.not_mem_nil
  | plain unreserved _ ih =>
    intro mem
    rcases List.mem_cons.1 mem with rfl | later
    · exact reserved unreserved
    · exact ih later
  | triple first second _ ih =>
    intro mem
    rcases List.mem_cons.1 mem with rfl | mem
    · exact percent rfl
    rcases List.mem_cons.1 mem with rfl | mem
    · exact reserved (unreserved_of_digit first)
    rcases List.mem_cons.1 mem with rfl | later
    · exact reserved (unreserved_of_digit second)
    · exact ih later

end Percent

/-! ## Strings of JSON -/

namespace Json

/-- Where the bytes of a string lead a reader of strings, if they do not end it, and the bytes of the
text that are read on the way. -/
def run (place : Place) : List UInt8 → Option (Place × List UInt8)
  | [] => some (place, [])
  | b :: bs =>
    match step true place b with
    | .go next read => (run next bs).map fun (last, more) => (last, read ++ more)
    | _ => none

theorem scan_of_run {place last : Place} {bs read : List UInt8}
    (runs : run place bs = some (last, read)) (rest : List UInt8) :
    scan true place (bs ++ rest) = (scan true last rest).map fun r => (read ++ r.1, r.2) := by
  induction bs generalizing place read with
  | nil =>
    obtain ⟨rfl, rfl⟩ := Prod.mk.inj (Option.some.inj runs)
    rw [List.nil_append]
    cases scan true place rest <;> rfl
  | cons b bs ih =>
    rw [run] at runs
    split at runs
    · next next piece goes =>
      obtain ⟨⟨last, more⟩, later, same⟩ := Option.map_eq_some_iff.1 runs
      obtain ⟨rfl, rfl⟩ := Prod.mk.inj same
      simp only [List.cons_append, scan, goes, ih later]
      cases scan true last rest <;> simp [Except.map]
    · cases runs

theorem run_append {place middle last : Place} {as bs read more : List UInt8}
    (first : run place as = some (middle, read)) (second : run middle bs = some (last, more)) :
    run place (as ++ bs) = some (last, read ++ more) := by
  induction as generalizing place read with
  | nil =>
    obtain ⟨rfl, rfl⟩ := Prod.mk.inj (Option.some.inj first)
    exact second
  | cons a as ih =>
    rw [run] at first
    split at first
    · next next piece goes =>
      obtain ⟨⟨middle, rest⟩, later, same⟩ := Option.map_eq_some_iff.1 first
      obtain ⟨rfl, rfl⟩ := Prod.mk.inj same
      rw [List.cons_append, run, goes]
      simp [ih later]
    · cases first

theorem step_high : ∀ n < 256, 128 ≤ n →
    step true .plain (UInt8.ofNat n) = .go .plain [UInt8.ofNat n] := by
  decide +kernel

theorem run_high {bs : List UInt8} (high : ∀ b ∈ bs, 128 ≤ b.toNat) :
    run .plain bs = some (.plain, bs) := by
  induction bs with
  | nil => rfl
  | cons b bs ih =>
    obtain ⟨first, rest⟩ := List.forall_mem_cons.1 high
    have goes := step_high b.toNat b.toNat_lt first
    rw [UInt8.ofNat_toNat] at goes
    simp only [run, goes, ih rest]
    rfl

theorem run_low : ∀ c : Char, c.toNat < 128 →
    run .plain (Utf8.encode (escape c)) = some (.plain, Utf8.encode [c]) :=
  forall_ascii (by decide +kernel)

theorem run_escape (c : Char) :
    run .plain (Utf8.encode (escape c)) = some (.plain, Utf8.encode [c]) := by
  by_cases low : c.toNat < 128
  · exact run_low c low
  · have plain : escape c = [c] := by
      unfold escape
      split
      case h_8 => exact if_neg fun control => low (Nat.lt_trans control (by decide))
      all_goals exact absurd (by decide) low
    rw [plain]
    exact run_high fun b mem => Utf8.high_of_mem_encode (Nat.le_of_not_lt low) mem

theorem run_escapes (cs : List Char) :
    run .plain (Utf8.encode (cs.flatMap escape)) = some (.plain, Utf8.encode cs) := by
  induction cs with
  | nil => rfl
  | cons c cs ih =>
    rw [List.flatMap_cons, Utf8.encode_append, ← List.singleton_append, Utf8.encode_append]
    exact run_append (run_escape c) ih

/-! ## Values of JSON -/

theorem encode_sign {c : Char} (ascii : c.toNat < 128) (s : List Char) :
    Utf8.encode (c :: s) = byte c :: Utf8.encode s := Utf8.encode_ascii ascii s

section Readers

variable {α β : Type} {x : Reader α} {f : α → Reader β} {b : UInt8} {bs rest : List UInt8} {a : α}

theorem bind_of_eq (reads : x bs = .ok (a, rest)) : (x >>= f) bs = f a rest := by
  show (x bs >>= fun r => f r.1 r.2) = f a rest
  rw [reads]
  rfl

theorem ahead_of_solid (solid : isBlank b = false) (more : List UInt8) :
    ahead (b :: more) = .ok (Char.ofNat b.toNat, b :: more) := by
  have skipped : blanks (b :: more) = .ok ((), b :: more) := by
    rw [blanks, List.dropWhile_cons_of_neg (by simp [solid])]
  rw [ahead, bind_of_eq skipped]
  rfl

theorem mark_of_solid (c : Char) (solid : isBlank (byte c) = false)
    (ascii : Char.ofNat (byte c).toNat = c) (more : List UInt8) :
    mark c (byte c :: more) = .ok ((), more) := by
  rw [mark, bind_of_eq (ahead_of_solid solid more), if_pos ascii]
  rfl

end Readers

theorem text_of_quoted (s : String) (rest : List UInt8) :
    text (Utf8.encode (s.toList.flatMap escape) ++ byte '"' :: rest) = .ok (s, rest) := by
  have closed : scan true .plain (byte '"' :: rest) = .ok ([], rest) := rfl
  have bytes := scan_of_run (run_escapes s.toList) (byte '"' :: rest)
  rw [closed, Except.map, List.append_nil] at bytes
  rw [text, bind_of_eq bytes, Utf8.decode?_encode]
  simp only [String.ofList_toList]
  rfl

theorem encode_quote (s : String) (rest : List UInt8) :
    Utf8.encode (quote s) ++ rest =
      byte '"' :: (Utf8.encode (s.toList.flatMap escape) ++ byte '"' :: rest) := by
  have sign : Utf8.encode ['"'] = [byte '"'] := by decide
  rw [quote, Utf8.encode_append, ← List.singleton_append, Utf8.encode_append, sign]
  simp only [List.append_assoc, List.cons_append, List.nil_append]

/-- A quoted string is a value at any depth. -/
theorem value_of_quote (depth : Nat) (s : String) (rest : List UInt8) :
    value depth (Utf8.encode (quote s) ++ rest) = .ok (.text s, rest) := by
  rw [encode_quote]
  have opened : advance (byte '"' :: (Utf8.encode (s.toList.flatMap escape) ++ byte '"' :: rest)) =
      .ok ((), Utf8.encode (s.toList.flatMap escape) ++ byte '"' :: rest) := rfl
  have isText : scalar '"' (byte '"' :: (Utf8.encode (s.toList.flatMap escape) ++ byte '"' :: rest)) =
      .ok (.text s, rest) := by
    refine (bind_of_eq opened).trans ?_
    rw [bind_of_eq (text_of_quoted s rest)]
    rfl
  cases depth with
  | zero => rw [value, bind_of_eq (ahead_of_solid rfl _)]; exact isText
  | succ depth => rw [value, bind_of_eq (ahead_of_solid rfl _)]; exact isText

section Brackets

variable {α : Type} {item : Reader α} {x : α} {xs : List α} {m : String × α}
  {ms : List (String × α)} {b : UInt8} {bs more rest : List UInt8} {fuel : Nat}

theorem elements_close (first : Bool) :
    elements item (fuel + 1) first (byte ']' :: rest) = .ok ([], rest) := rfl

theorem elements_first (solid : isBlank b = false) (further : Char.ofNat b.toNat ≠ ']')
    (reads : item (b :: bs) = .ok (x, more)) (others : elements item fuel false more = .ok (xs, rest)) :
    elements item (fuel + 1) true (b :: bs) = .ok (x :: xs, rest) := by
  rw [elements, bind_of_eq (ahead_of_solid solid bs), if_neg further]
  refine (bind_of_eq reads).trans ?_
  rw [bind_of_eq others]
  rfl

/-- A key, a colon and a value. -/
theorem member_of_quote (key : String) (reads : item bs = .ok (x, rest)) :
    member item (Utf8.encode (quote key) ++ byte ':' :: bs) = .ok ((key, x), rest) := by
  rw [encode_quote, member, bind_of_eq (mark_of_solid '"' rfl rfl _),
    bind_of_eq (text_of_quoted key _), bind_of_eq (mark_of_solid ':' rfl rfl _), bind_of_eq reads]
  rfl

theorem members_close (first : Bool) :
    members item (fuel + 1) first (byte '\x7d' :: rest) = .ok ([], rest) := rfl

theorem members_first (key : String) (reads : item bs = .ok (x, more))
    (others : members item fuel false more = .ok (ms, rest)) :
    members item (fuel + 1) true (Utf8.encode (quote key) ++ byte ':' :: bs) =
      .ok ((key, x) :: ms, rest) := by
  have entry := member_of_quote key reads
  rw [encode_quote] at entry ⊢
  rw [members, bind_of_eq (ahead_of_solid rfl _), if_neg (by decide)]
  refine (bind_of_eq entry).trans ?_
  rw [bind_of_eq others]
  rfl

theorem members_next (key : String) (reads : item bs = .ok (x, more))
    (others : members item fuel false more = .ok (ms, rest)) :
    members item (fuel + 1) false (byte ',' :: (Utf8.encode (quote key) ++ byte ':' :: bs)) =
      .ok ((key, x) :: ms, rest) := by
  have comma := mark_of_solid ',' rfl rfl (Utf8.encode (quote key) ++ byte ':' :: bs)
  rw [members, bind_of_eq (ahead_of_solid rfl _), if_neg (by decide)]
  refine (bind_of_eq comma).trans ((bind_of_eq (member_of_quote key reads)).trans ?_)
  rw [bind_of_eq others]
  rfl

end Brackets

variable {depth : Nat} {xs : List Datum} {es : List (String × Datum)} {bs rest : List UInt8}

theorem value_of_elements (reads : elements (value depth) (bs.length + 1) true bs = .ok (xs, rest)) :
    value (depth + 1) (byte '[' :: bs) = .ok (.array xs, rest) := by
  have opened : advance (byte '[' :: bs) = .ok ((), bs) := rfl
  have size : (get : Reader (List UInt8)) bs = .ok (bs, bs) := rfl
  rw [value, bind_of_eq (ahead_of_solid rfl _)]
  refine (bind_of_eq opened).trans ((bind_of_eq size).trans ((bind_of_eq reads).trans ?_))
  rfl

theorem value_of_members (reads : members (value depth) (bs.length + 1) true bs = .ok (es, rest)) :
    value (depth + 1) (byte '\x7b' :: bs) = .ok (tableOf es, rest) := by
  have opened : advance (byte '\x7b' :: bs) = .ok ((), bs) := rfl
  have size : (get : Reader (List UInt8)) bs = .ok (bs, bs) := rfl
  rw [value, bind_of_eq (ahead_of_solid rfl _)]
  refine (bind_of_eq opened).trans ((bind_of_eq size).trans ((bind_of_eq reads).trans ?_))
  rfl

/-- An array of one quoted string. -/
theorem value_of_singleton (depth : Nat) (s : String) (rest : List UInt8) :
    value (depth + 1) (byte '[' :: (Utf8.encode (quote s) ++ byte ']' :: rest)) =
      .ok (.array [.text s], rest) := by
  have item := value_of_quote depth s (byte ']' :: rest)
  refine value_of_elements ?_
  rw [encode_quote] at item ⊢
  exact elements_first rfl (by decide) item (elements_close false)

end Json

end Chronicle
