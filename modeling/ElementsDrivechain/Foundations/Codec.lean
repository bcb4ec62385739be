import Mathlib.Algebra.Order.Group.Nat
import Mathlib.Tactic.Ring

/-!
# Byte strings

Numbers of a fixed width as byte strings in both byte orders, and readers that take values off the
front of a byte string.

* `readLE_writeLE`, `writeLE_readLE` : **the two are inverse to each other** at a fixed width.
* `writeBE_append_inj` : fields of a known width are determined by what they spell together.
* `Reader.take_append` : what was written first is read first.
* `Reader.Reads.bind` : **readers compose as their spellings do.**
-/

namespace ElementsDrivechain

/-- A byte string. -/
abbrev Bytes := List UInt8

variable {width n : ℕ} {b input rest : Bytes}

/-! ### Least byte first -/

/-- The little-endian number a byte string spells. -/
def readLE : Bytes → ℕ
  | [] => 0
  | b :: bs => b.toNat + 256 * readLE bs

/-- The little-endian bytes of a number; what does not fit the width is dropped. -/
def writeLE : ℕ → ℕ → Bytes
  | 0, _ => []
  | width + 1, n => UInt8.ofNat n :: writeLE width (n / 256)

@[simp] theorem length_writeLE (width n : ℕ) : (writeLE width n).length = width := by
  induction width generalizing n with
  | zero => rfl
  | succ width ih => rw [writeLE, List.length_cons, ih]

theorem readLE_writeLE (h : n < 256 ^ width) : readLE (writeLE width n) = n := by
  induction width generalizing n with
  | zero =>
    rw [Nat.lt_one_iff.1 h]
    rfl
  | succ width ih =>
    have hrest : n / 256 < 256 ^ width := Nat.div_lt_of_lt_mul (by rwa [pow_succ'] at h)
    have hbyte : (UInt8.ofNat n).toNat = n % 256 := UInt8.toNat_ofNat'
    rw [writeLE, readLE, ih hrest, hbyte]
    exact Nat.mod_add_div n 256

theorem readLE_lt (b : Bytes) : readLE b < 256 ^ b.length := by
  induction b with
  | nil => exact Nat.one_pos
  | cons b bs ih =>
    have hb : b.toNat < 256 := b.toNat_lt
    rw [readLE, List.length_cons, pow_succ]
    omega

theorem writeLE_readLE (b : Bytes) : writeLE b.length (readLE b) = b := by
  induction b with
  | nil => rfl
  | cons b bs ih =>
    have hb : b.toNat < 256 := b.toNat_lt
    have hfirst : UInt8.ofNat (b.toNat + 256 * readLE bs) = b := by
      rw [← UInt8.toNat_inj, UInt8.toNat_ofNat']
      omega
    have hrest : (b.toNat + 256 * readLE bs) / 256 = readLE bs := by omega
    rw [List.length_cons, readLE, writeLE, hfirst, hrest, ih]

/-! ### Least byte last -/

/-- The big-endian number a byte string spells. -/
def readBE (b : Bytes) : ℕ := readLE b.reverse

/-- The big-endian bytes of a number. -/
def writeBE (width n : ℕ) : Bytes := (writeLE width n).reverse

@[simp] theorem length_writeBE (width n : ℕ) : (writeBE width n).length = width := by
  rw [writeBE, List.length_reverse, length_writeLE]

theorem readBE_writeBE (h : n < 256 ^ width) : readBE (writeBE width n) = n := by
  rw [readBE, writeBE, List.reverse_reverse, readLE_writeLE h]

theorem readBE_lt (b : Bytes) : readBE b < 256 ^ b.length := by
  have := readLE_lt b.reverse
  rwa [List.length_reverse] at this

theorem writeBE_readBE (b : Bytes) : writeBE b.length (readBE b) = b := by
  have := writeLE_readLE b.reverse
  rw [List.length_reverse] at this
  rw [writeBE, readBE, this, List.reverse_reverse]

/-- A number of a known width and what follows it are determined by what they spell together. -/
theorem writeBE_append_inj {m : ℕ} {a : Bytes} (hm : m < 256 ^ width) (hn : n < 256 ^ width)
    (h : writeBE width m ++ a = writeBE width n ++ b) : m = n ∧ a = b := by
  obtain ⟨hnumber, hrest⟩ := List.append_inj h (by simp)
  rw [← readBE_writeBE hm, hnumber, readBE_writeBE hn]
  exact ⟨rfl, hrest⟩

/-! ### Readers -/

/-- Take a value off the front of a byte string, or refuse it with a reason. -/
abbrev Reader := StateT Bytes (Except String)

namespace Reader

/-- Take a number of bytes. -/
def take (n : ℕ) : Reader { b : Bytes // b.length = n } := fun input =>
  if h : n ≤ input.length then .ok (⟨input.take n, List.length_take_of_le h⟩, input.drop n)
  else .error "DataStream::read(): end of data"

/-- **What was written first is read first.** -/
theorem take_append (hb : b.length = n) (rest : Bytes) :
    take n (b ++ rest) = .ok (⟨b, hb⟩, rest) := by
  subst hb
  rw [take, dif_pos (by simp)]
  congr
  · exact List.take_left
  · exact List.drop_left

/-- Refuse the input for a reason. -/
def refuseIf (c : Prop) [Decidable c] (e : String) : Reader Unit := fun input =>
  if c then .error e else .ok ((), input)

theorem refuseIf_of_not {c : Prop} [Decidable c] {e : String} (h : ¬c) (input : Bytes) :
    refuseIf c e input = .ok ((), input) :=
  if_neg h

variable {α β : Type} {m : Reader α} {a : α}

/-- A value is read before what follows it. -/
theorem bind_of_eq_ok {f : α → Reader β} (h : m input = .ok (a, rest)) :
    (m >>= f) input = f a rest := by
  change (m input >>= fun p => f p.1 p.2) = _
  rw [h]
  rfl

/-- The reader takes a value off its spelling, whatever follows it. -/
def Reads (m : Reader α) (a : α) (b : Bytes) : Prop := ∀ rest, m (b ++ rest) = .ok (a, rest)

theorem Reads.pure (a : α) : Reads (Pure.pure a) a [] := fun _ => rfl

/-- Values are read in the order in which they were written. -/
theorem Reads.bind {f : α → Reader β} {c : β} {b' : Bytes} (h : Reads m a b)
    (h' : Reads (f a) c b') : Reads (m >>= f) c (b ++ b') := fun rest => by
  rw [List.append_assoc, bind_of_eq_ok (h _), h' rest]

theorem Reads.take (hb : b.length = n) : Reads (Reader.take n) ⟨b, hb⟩ b :=
  take_append hb

theorem Reads.map {f : α → β} (h : Reads m a b) :
    Reads (f <$> m) (f a) b := fun rest => by
  change (m (b ++ rest) >>= fun p => Pure.pure (f p.1, p.2)) = _
  rw [h rest]
  rfl

/-- A spelling that is the whole input is read without a rest. -/
theorem Reads.eq_ok (h : Reads m a b) : m b = .ok (a, []) := by
  have := h []
  rwa [List.append_nil] at this

/-- A number of a given width, least byte first. -/
def number (width : ℕ) : Reader ℕ := (readLE ·.1) <$> take width

theorem Reads.number (h : n < 256 ^ width) : Reads (Reader.number width) n (writeLE width n) := by
  have := (Reads.take (length_writeLE width n)).map (f := (readLE ·.1))
  rwa [readLE_writeLE h] at this

theorem Reads.refuseIf {c : Prop} [Decidable c] {e : String} (h : ¬c) :
    Reads (Reader.refuseIf c e) () [] :=
  refuseIf_of_not h

theorem map_eq_ok {f : α → β} {c : β} :
    (f <$> m) input = .ok (c, rest) ↔ ∃ a, m input = .ok (a, rest) ∧ f a = c := by
  change (m input >>= fun p => Pure.pure (f p.1, p.2)) = _ ↔ _
  cases hm : m input with
  | error e => simp [bind, Except.bind]
  | ok p =>
    simp only [bind, Except.bind, Pure.pure, Except.pure, Except.ok.injEq]
    constructor
    · rintro ⟨rfl, rfl⟩
      exact ⟨p.1, rfl, rfl⟩
    · rintro ⟨a, rfl, rfl⟩
      rfl

/-- Read a value, and refuse it for the given reason whatever is wrong with it. -/
def orError (m : Reader α) (e : String) : Reader α := fun input => (m input).mapError fun _ => e

theorem Reads.orError (h : Reads m a b) (e : String) :
    Reads (Reader.orError m e) a b := fun rest => by
  rw [Reader.orError, h rest]
  rfl

theorem number_lt (h : number width input = .ok (n, rest)) : n < 256 ^ width := by
  obtain ⟨b, -, rfl⟩ := map_eq_ok.1 h
  exact (readLE_lt b.1).trans_eq (by rw [b.2])

/-- A list of values of a known length. -/
def list (m : Reader α) : ℕ → Reader (List α)
  | 0 => pure []
  | n + 1 => do
    let a ← m
    let rest ← list m n
    return a :: rest

theorem Reads.list {f : α → Bytes} {l : List α} (h : ∀ a ∈ l, Reads m a (f a)) :
    Reads (m.list l.length) l (l.flatMap f) := by
  induction l with
  | nil => exact Reads.pure []
  | cons a l ih =>
    have hrest := ih fun b hb => h b (List.mem_cons_of_mem a hb)
    change Reads (m >>= fun a => m.list l.length >>= fun rest => Pure.pure (a :: rest)) (a :: l)
      (f a ++ l.flatMap f)
    refine (h a List.mem_cons_self).bind ?_
    rw [← List.append_nil (l.flatMap f)]
    exact hrest.bind (Reads.pure _)

end Reader

end ElementsDrivechain
