import ElementsDrivechain.Foundations.Codec
import ElementsDrivechain.Foundations.Lists
import Mathlib.Data.FinEnum
import Mathlib.Data.Nat.Digits.Defs
import Mathlib.Data.Nat.Digits.Lemmas

/-!
# Texts of records

A record is written as the text of an object, without blanks, and read in two stages: the text is
cut into tokens, and the tokens are read as a value.  Strings have no escapes here: those of the
records that use this are spelled with letters, digits and a few signs.

* `lex_write` : **a text that was written is cut into its tokens again.**
-/

namespace ElementsDrivechain

variable {c : UInt8} {rest : Bytes}

/-- The bytes of a text of plain characters. -/
def ascii (text : String) : Bytes := text.toList.map fun c => UInt8.ofNat c.toNat

/-! ### Numbers -/

/-- The character is a decimal digit. -/
def IsDigit (c : UInt8) : Prop := 48 ≤ c ∧ c ≤ 57
deriving Decidable

/-- The decimal digits of a number, highest first. -/
def writeDecimal (n : ℕ) : Bytes :=
  if n = 0 then [48] else (Nat.digits 10 n).reverse.map fun d => UInt8.ofNat (48 + d)

/-- The number that a text of digits spells. -/
def digitsValue (digits : Bytes) : ℕ := digits.foldl (fun n c => 10 * n + (c.toNat - 48)) 0

/-- Read a number in its shortest form. -/
def readDecimal (text : Bytes) : Option ℕ :=
  if text = [] ∨ ¬(∀ c ∈ text, IsDigit c) ∨ (text.head? = some 48 ∧ text.length ≠ 1) then none
  else some (digitsValue text)

theorem toNat_digit {d : ℕ} (h : d < 10) : (UInt8.ofNat (48 + d)).toNat = 48 + d :=
  UInt8.toNat_ofNat_of_lt' (by have : UInt8.size = 256 := rfl; omega)

theorem isDigit_digit {d : ℕ} (h : d < 10) : IsDigit (UInt8.ofNat (48 + d)) := by
  rw [IsDigit, UInt8.le_iff_toNat_le, UInt8.le_iff_toNat_le, toNat_digit h]
  exact ⟨Nat.le_add_right _ _, show 48 + d ≤ 57 by omega⟩

theorem isDigit_writeDecimal (n : ℕ) : ∀ c ∈ writeDecimal n, IsDigit c := by
  unfold writeDecimal
  split_ifs with h
  · exact List.forall_mem_singleton.2 (by decide)
  · intro c hc
    obtain ⟨d, hd, rfl⟩ := List.mem_map.1 hc
    exact isDigit_digit (Nat.digits_lt_base (by decide) (List.mem_reverse.1 hd))

theorem writeDecimal_ne_nil (n : ℕ) : writeDecimal n ≠ [] := by
  unfold writeDecimal
  split_ifs with h
  · exact List.cons_ne_nil _ _
  · simpa using Nat.digits_ne_nil_iff_ne_zero.2 h

/-- Digits that are written are read as their value. -/
theorem digitsValue_map {digits : List ℕ} (h : ∀ d ∈ digits, d < 10) :
    digitsValue (digits.reverse.map fun d => UInt8.ofNat (48 + d)) = Nat.ofDigits 10 digits := by
  induction digits with
  | nil => rfl
  | cons d digits ih =>
    rw [List.forall_mem_cons] at h
    have hrest := ih h.2
    unfold digitsValue at hrest ⊢
    rw [List.reverse_cons, List.map_append, List.foldl_append, hrest, Nat.ofDigits_cons]
    simp only [List.map_cons, List.map_nil, List.foldl_cons, List.foldl_nil, toNat_digit h.1]
    omega

theorem digitsValue_writeDecimal (n : ℕ) : digitsValue (writeDecimal n) = n := by
  unfold writeDecimal
  split_ifs with h
  · exact h.symm
  · rw [digitsValue_map fun d hd => Nat.digits_lt_base (by decide) hd, Nat.ofDigits_digits]

/-- A number does not start with a zero, unless it is one. -/
theorem head_writeDecimal {n : ℕ} (h : (writeDecimal n).head? = some 48) :
    (writeDecimal n).length = 1 := by
  unfold writeDecimal at h ⊢
  split_ifs with hzero
  · rfl
  · exfalso
    rw [if_neg hzero, List.head?_map, List.head?_reverse] at h
    have hne : Nat.digits 10 n ≠ [] := Nat.digits_ne_nil_iff_ne_zero.2 hzero
    rw [List.getLast?_eq_some_getLast hne, Option.map_some, Option.some.injEq] at h
    have hlast := Nat.getLast_digit_ne_zero 10 hzero
    have hlt : (Nat.digits 10 n).getLast hne < 10 :=
      Nat.digits_lt_base (by decide) (List.getLast_mem hne)
    have hvalue := congrArg UInt8.toNat h
    rw [toNat_digit hlt] at hvalue
    exact hlast (by simpa using hvalue)

/-- **A number is read back.** -/
theorem readDecimal_writeDecimal (n : ℕ) : readDecimal (writeDecimal n) = some n := by
  rw [readDecimal, if_neg, digitsValue_writeDecimal]
  rintro (h | h | ⟨h, hlength⟩)
  · exact writeDecimal_ne_nil n h
  · exact h (isDigit_writeDecimal n)
  · exact hlength (head_writeDecimal h)

theorem length_writeDecimal_le {n k : ℕ} (hk : 0 < k) (h : n < 10 ^ k) :
    (writeDecimal n).length ≤ k := by
  unfold writeDecimal
  split_ifs with hzero
  · exact hk
  · simpa using (Nat.digits_length_le_iff (by decide) n).2 h

/-! ### Byte strings -/

/-- The hexadecimal digit of a value. -/
def hexChar (n : ℕ) : UInt8 := if n < 10 then UInt8.ofNat (48 + n) else UInt8.ofNat (87 + n)

/-- The value of a hexadecimal digit, small or capital. -/
def hexValue (c : UInt8) : Option ℕ :=
  if IsDigit c then some (c.toNat - 48)
  else if 97 ≤ c ∧ c ≤ 102 then some (c.toNat - 87)
  else if 65 ≤ c ∧ c ≤ 70 then some (c.toNat - 55)
  else none

/-- Two small letters or digits for each byte. -/
def writeHex (b : Bytes) : Bytes :=
  b.flatMap fun x => [hexChar (x.toNat / 16), hexChar (x.toNat % 16)]

/-- Read pairs of hexadecimal digits. -/
def readHex : Bytes → Option Bytes
  | [] => some []
  | [_] => none
  | high :: low :: rest => do
    let h ← hexValue high
    let l ← hexValue low
    let tail ← readHex rest
    return UInt8.ofNat (16 * h + l) :: tail

theorem hexValue_hexChar : ∀ n < 16, hexValue (hexChar n) = some n := by decide

@[simp] theorem length_writeHex (b : Bytes) : (writeHex b).length = 2 * b.length := by
  induction b with
  | nil => rfl
  | cons x b ih =>
    simp only [writeHex, List.flatMap_cons, List.length_append, List.length_cons] at ih ⊢
    simp only [ih, List.length_nil]
    omega

/-- **A byte string is read back.** -/
theorem readHex_writeHex (b : Bytes) : readHex (writeHex b) = some b := by
  induction b with
  | nil => rfl
  | cons x b ih =>
    have hlt := x.toNat_lt
    have hbyte : UInt8.ofNat (16 * (x.toNat / 16) + x.toNat % 16) = x := by
      rw [Nat.div_add_mod]
      exact UInt8.ofNat_toNat
    change readHex (hexChar (x.toNat / 16) :: hexChar (x.toNat % 16) :: writeHex b) = _
    rw [readHex, hexValue_hexChar _ (by omega), hexValue_hexChar _ (by omega), ih]
    exact congrArg (fun y => some (y :: b)) hbyte

/-! ### Tokens -/

/-- What a text is made of: signs, numbers and strings. -/
inductive Token where
  | lbrace
  | rbrace
  | lbracket
  | rbracket
  | colon
  | comma
  | null
  | num (n : ℕ)
  | str (s : Bytes)
deriving DecidableEq

variable {token : Token}

/-- A character that needs no escape. -/
def IsPlain (c : UInt8) : Prop := 32 ≤ c ∧ c < 127 ∧ c ≠ 34 ∧ c ≠ 92
deriving Decidable

/-- A character that may stand between tokens. -/
def IsBlank (c : UInt8) : Prop := c = 32 ∨ c = 9 ∨ c = 10 ∨ c = 13
deriving Decidable

namespace Token

/-- The text of a token. -/
def write : Token → Bytes
  | lbrace => [123]
  | rbrace => [125]
  | lbracket => [91]
  | rbracket => [93]
  | colon => [58]
  | comma => [44]
  | null => [110, 117, 108, 108]
  | num n => writeDecimal n
  | str s => 34 :: (s ++ [34])

/-- The sign that a character is. -/
def ofSign (c : UInt8) : Option Token :=
  if c = 123 then some lbrace
  else if c = 125 then some rbrace
  else if c = 91 then some lbracket
  else if c = 93 then some rbracket
  else if c = 58 then some colon
  else if c = 44 then some comma
  else none

/-- Take a token off a text that does not start with a blank. -/
def read (c : UInt8) (rest : Bytes) : Option (Token × Bytes) :=
  match ofSign c with
  | some token => some (token, rest)
  | none =>
    if c = 34 then
      let after := rest.dropWhile fun x => decide (IsPlain x)
      if after.head? = some 34 then
        some (str (rest.takeWhile fun x => decide (IsPlain x)), after.tail)
      else none
    else if IsDigit c then
      (readDecimal ((c :: rest).takeWhile fun x => decide (IsDigit x))).map fun n =>
        (num n, (c :: rest).dropWhile fun x => decide (IsDigit x))
    else if c = 110 ∧ rest.take 3 = [117, 108, 108] then some (null, rest.drop 3)
    else none

/-- The strings of a token need no escapes. -/
def Plain : Token → Prop
  | str s => ∀ c ∈ s, IsPlain c
  | _ => True

/-- The token is a number. -/
def IsNum : Token → Prop
  | num _ => True
  | _ => False

end Token

/-- Cut a text into tokens; each step takes at least one character. -/
def lexFuel : ℕ → Bytes → Option (List Token)
  | _, [] => some []
  | 0, _ :: _ => none
  | fuel + 1, c :: rest =>
    if IsBlank c then lexFuel fuel rest
    else do
      let (token, rest) ← Token.read c rest
      let tokens ← lexFuel fuel rest
      return token :: tokens

/-- The tokens of a text. -/
def lex (text : Bytes) : Option (List Token) := lexFuel text.length text

/-- The text of a list of tokens. -/
def writeTokens (tokens : List Token) : Bytes := tokens.flatMap Token.write

/-- No number follows a number. -/
def Separated : List Token → Prop
  | [] => True
  | [_] => True
  | first :: second :: rest => ¬(first.IsNum ∧ second.IsNum) ∧ Separated (second :: rest)

theorem IsDigit.ne {k : UInt8} (h : IsDigit c) (hk : ¬IsDigit k) : c ≠ k :=
  fun heq => hk (heq ▸ h)

theorem IsPlain.of_isDigit (h : IsDigit c) : IsPlain c := by
  have hlow : 48 ≤ c.toNat := UInt8.le_iff_toNat_le.1 h.1
  have hhigh : c.toNat ≤ 57 := UInt8.le_iff_toNat_le.1 h.2
  refine ⟨UInt8.le_iff_toNat_le.2 ?_, UInt8.lt_iff_toNat_lt.2 ?_, h.ne (by decide),
    h.ne (by decide)⟩
  · exact le_trans (by decide) hlow
  · exact lt_of_le_of_lt hhigh (by decide)

theorem isPlain_writeDecimal (n : ℕ) : ∀ c ∈ writeDecimal n, IsPlain c :=
  fun c hc => .of_isDigit (isDigit_writeDecimal n c hc)

theorem isPlain_hexChar : ∀ n < 16, IsPlain (hexChar n) := by decide

theorem isPlain_writeHex (b : Bytes) : ∀ c ∈ writeHex b, IsPlain c := by
  intro c hc
  obtain ⟨x, -, hx⟩ := List.mem_flatMap.1 hc
  have hlt := x.toNat_lt
  simp only [List.mem_cons, List.not_mem_nil, or_false] at hx
  obtain rfl | rfl := hx
  · exact isPlain_hexChar _ (by omega)
  · exact isPlain_hexChar _ (by omega)

namespace Token

theorem length_read {rest' : Bytes} (h : read c rest = some (token, rest')) :
    rest'.length ≤ rest.length := by
  have hdrop : ∀ p : UInt8 → Bool, (rest.dropWhile p).length ≤ rest.length :=
    fun p => (List.dropWhile_sublist p).length_le
  unfold read at h
  split at h
  · cases h
    exact le_rfl
  dsimp only at h
  split_ifs at h with hquote hhead hdigit
  · cases h
    rw [List.length_tail]
    exact (Nat.sub_le _ _).trans (hdrop _)
  · simp only [Option.map_eq_some_iff, Prod.mk.injEq] at h
    obtain ⟨n, -, -, rfl⟩ := h
    rw [List.dropWhile_cons_of_pos (by simpa using hdigit)]
    exact hdrop _
  · cases h
    simp

/-- What is after a number is no digit. -/
def Stops (token : Token) (rest : Bytes) : Prop := token.IsNum → ∀ c ∈ rest.head?, ¬IsDigit c

theorem ofSign_of_isDigit (h : IsDigit c) : ofSign c = none := by
  unfold ofSign
  rw [if_neg (h.ne (by decide)), if_neg (h.ne (by decide)), if_neg (h.ne (by decide)),
    if_neg (h.ne (by decide)), if_neg (h.ne (by decide)), if_neg (h.ne (by decide))]

theorem not_isBlank_of_isDigit (h : IsDigit c) : ¬IsBlank c := by
  rintro (rfl | rfl | rfl | rfl) <;> exact absurd h (by decide)

/-- **A token that was written is read.** -/
theorem read_write (hplain : token.Plain) (hstops : token.Stops rest) :
    ∃ c tail, token.write = c :: tail ∧ ¬IsBlank c ∧
      read c (tail ++ rest) = some (token, rest) := by
  cases token with
  | num n =>
    obtain ⟨c, tail, hdigits⟩ := List.exists_cons_of_ne_nil (writeDecimal_ne_nil n)
    have hc : IsDigit c := isDigit_writeDecimal n c (by rw [hdigits]; exact List.mem_cons_self)
    obtain ⟨htake, hdrop⟩ := Lists.takeWhile_append_of_stop (isDigit_writeDecimal n)
      (hstops trivial)
    rw [hdigits, List.cons_append] at htake hdrop
    refine ⟨c, tail, hdigits, not_isBlank_of_isDigit hc, ?_⟩
    simp only [read, ofSign_of_isDigit hc, if_neg (hc.ne (show ¬IsDigit 34 by decide)), if_pos hc,
      htake, hdrop, ← hdigits, readDecimal_writeDecimal, Option.map_some]
  | str s =>
    have hquote : ∀ c ∈ (34 :: rest : Bytes).head?, ¬IsPlain c := by
      rintro c ⟨⟩
      decide
    obtain ⟨htake, hdrop⟩ := Lists.takeWhile_append_of_stop hplain hquote
    have hsign : ofSign 34 = none := by decide
    refine ⟨34, s ++ [34], rfl, by decide, ?_⟩
    rw [List.append_assoc, List.singleton_append]
    simp only [read, hsign, if_true, htake, hdrop, List.head?_cons, List.tail_cons]
  | null => exact ⟨110, _, rfl, by decide, by simp [read, ofSign, IsDigit]⟩
  | _ => exact ⟨_, _, rfl, by decide, rfl⟩

/-- What is no number does not start with a digit. -/
theorem stops_write {next : Token} (h : ¬(token.IsNum ∧ next.IsNum)) (rest : Bytes) :
    token.Stops (next.write ++ rest) := by
  intro hnum c hc
  have hnext : ¬next.IsNum := fun hnext => h ⟨hnum, hnext⟩
  cases next with
  | num => exact absurd trivial hnext
  | _ =>
    cases hc
    decide

end Token

/-- More steps than characters change nothing. -/
theorem lexFuel_eq {fuel fuel' : ℕ} {text : Bytes} (h : text.length ≤ fuel)
    (h' : text.length ≤ fuel') : lexFuel fuel text = lexFuel fuel' text := by
  induction fuel generalizing fuel' text with
  | zero =>
    obtain rfl := List.eq_nil_of_length_eq_zero (Nat.le_zero.1 h)
    cases fuel' <;> rfl
  | succ fuel ih =>
    cases text with
    | nil => cases fuel' <;> rfl
    | cons c rest =>
      cases fuel' with
      | zero => exact absurd h' (by simp)
      | succ fuel' =>
        simp only [List.length_cons, Nat.add_le_add_iff_right] at h h'
        simp only [lexFuel]
        split_ifs
        · exact ih h h'
        · cases hread : Token.read c rest with
          | none => rfl
          | some found =>
            have hlength := Token.length_read hread
            simp only [Option.bind_eq_bind, Option.bind_some]
            rw [ih (hlength.trans h) (hlength.trans h')]

theorem lex_cons {rest' : Bytes} (hblank : ¬IsBlank c)
    (h : Token.read c rest = some (token, rest')) :
    lex (c :: rest) = (lex rest').map (token :: ·) := by
  have hlength := Token.length_read h
  unfold lex
  rw [List.length_cons, lexFuel, if_neg hblank, h]
  simp only [Option.bind_eq_bind, Option.bind_some]
  rw [lexFuel_eq hlength le_rfl]
  cases lexFuel rest'.length rest' <;> rfl

/-- **A text that was written is cut into its tokens again.** -/
theorem lex_write {tokens : List Token} (hplain : ∀ token ∈ tokens, token.Plain)
    (hseparated : Separated tokens) : lex (writeTokens tokens) = some tokens := by
  induction tokens with
  | nil => rfl
  | cons token tokens ih =>
    rw [List.forall_mem_cons] at hplain
    have hrest : Separated tokens ∧ token.Stops (writeTokens tokens) := by
      cases tokens with
      | nil => exact ⟨trivial, fun _ c hc => by cases hc⟩
      | cons next tokens => exact ⟨hseparated.2, Token.stops_write hseparated.1 _⟩
    obtain ⟨c, tail, hwrite, hblank, hread⟩ := Token.read_write hplain.1 hrest.2
    change lex (token.write ++ writeTokens tokens) = _
    rw [hwrite, List.cons_append, lex_cons hblank hread, ih hplain.2 hrest.1]
    rfl

/-! ### Values -/

/-- A value. -/
inductive Json where
  | null
  | num (n : ℕ)
  | str (s : Bytes)
  | obj (fields : List (Bytes × Json))

mutual

/-- Read a value. -/
def parseValue : ℕ → List Token → Option (Json × List Token)
  | _, .null :: rest => some (.null, rest)
  | _, .num n :: rest => some (.num n, rest)
  | _, .str s :: rest => some (.str s, rest)
  | _, .lbrace :: .rbrace :: rest => some (.obj [], rest)
  | fuel + 1, .lbrace :: rest => do
    let (fields, rest) ← parseFields fuel rest
    return (.obj fields, rest)
  | _, _ => none

/-- Read the fields of an object, with the brace that closes it. -/
def parseFields : ℕ → List Token → Option (List (Bytes × Json) × List Token)
  | fuel + 1, .str key :: .colon :: rest => do
    let (value, rest) ← parseValue fuel rest
    match rest with
    | .rbrace :: rest => return ([(key, value)], rest)
    | .comma :: rest => do
      let (fields, rest) ← parseFields fuel rest
      return ((key, value) :: fields, rest)
    | _ => none
  | _, _ => none

end

/-- Read a text that is one value. -/
def parseJson (text : Bytes) : Option Json := do
  let tokens ← lex text
  let (value, rest) ← parseValue tokens.length tokens
  if rest = [] then some value else none

/-! ### Records -/

namespace Json

/-- The fields of an object that has no others than those that are allowed, and none twice. -/
def record (allowed : List Bytes) : Json → Option (List (Bytes × Json))
  | .obj fields =>
    if (fields.map (·.1)).Nodup ∧ ∀ key ∈ fields.map (·.1), key ∈ allowed then some fields else none
  | _ => none

/-- An object that has all the fields that are allowed is accepted. -/
theorem record_of_keys {allowed : List Bytes} {fields : List (Bytes × Json)}
    (h : fields.map (·.1) = allowed) (hnodup : allowed.Nodup) :
    record allowed (.obj fields) = some fields := by
  subst h
  rw [record, if_pos ⟨hnodup, fun _ hkey => hkey⟩]

/-- The value of a field. -/
def field (fields : List (Bytes × Json)) (key : Bytes) : Option Json :=
  (fields.find? fun f => f.1 = key).map (·.2)

/-- The bytes of a string. -/
def text : Json → Option Bytes
  | .str s => some s
  | _ => none

/-- A number of 64 bits. -/
def u64 : Json → Option ℕ
  | .num n => if n < 2 ^ 64 then some n else none
  | _ => none

end Json

/-- A field of an object, and what separates it from the next one. -/
def fieldTokens (key : String) (value : List Token) : List Token :=
  .str (ascii key) :: .colon :: value

end ElementsDrivechain
