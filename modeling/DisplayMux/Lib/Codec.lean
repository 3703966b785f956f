import Mathlib.Algebra.Group.Nat.Defs
import Mathlib.Data.List.Induction
import DisplayMux.Lib.Except

/-! Readers of byte strings. A reader is specified by the values it accepts and the bytes
of each: it succeeds exactly on those bytes, whatever follows them. That one equivalence
is both the round trip and the canonicity of a format, and it composes. -/
namespace DisplayMux

abbrev Bytes := List UInt8

/-- A reader takes a value off the front of its input, or fails. -/
abbrev Reader (ε α : Type) := StateT Bytes (Except ε) α

namespace Reader

variable {ε α β : Type}

def take (short : ε) (count : Nat) : Reader ε Bytes := fun input =>
  if count ≤ input.length then .ok (input.take count, input.drop count) else .error short

/-- The reader accepts exactly the bytes of the values in `valid`. -/
def Reads (r : Reader ε α) (valid : α → Prop) (bytes : α → Bytes) : Prop :=
  ∀ input a rest, r.run input = .ok (a, rest) ↔ valid a ∧ input = bytes a ++ rest

namespace Reads

variable {r : Reader ε α} {valid valid' : α → Prop} {bytes bytes' : α → Bytes}

theorem congr (reads : Reads r valid bytes) (same : ∀ a, valid a ↔ valid' a)
    (alike : ∀ a, valid a → bytes a = bytes' a) : Reads r valid' bytes' := by
  intro input a rest
  rw [reads input a rest, ← same a]
  constructor
  · rintro ⟨ok, rfl⟩
    exact ⟨ok, by rw [alike a ok]⟩
  · rintro ⟨ok, rfl⟩
    exact ⟨ok, by rw [alike a ok]⟩

theorem lift (x : Except ε α) : Reads (StateT.lift x) (fun a => x = .ok a) (fun _ => []) := by
  intro input a rest
  cases x with
  | error e => simp [StateT.lift, StateT.run, Bind.bind, Except.bind]
  | ok a => simp [StateT.lift, StateT.run, Bind.bind, Except.bind, Pure.pure, Except.pure, eq_comm]

theorem pure (a : α) : Reads (Pure.pure a : Reader ε α) (· = a) (fun _ => []) := by
  intro input b rest
  have read : (Pure.pure a : Reader ε α).run input = .ok (a, input) := rfl
  simp [read, eq_comm]

theorem throw (e : ε) (never : ∀ a, ¬ valid a) :
    Reads (MonadExcept.throw e : Reader ε α) valid bytes :=
  (lift (.error e : Except ε α)).congr (by simpa using never) (by simp)

theorem bind (first : Reads r valid bytes) (part : β → α) {next : α → Reader ε β}
    {validNext : α → β → Prop} {bytesNext : β → Bytes}
    (second : ∀ a, Reads (next a) (validNext a) bytesNext)
    (own : ∀ a b, valid a → validNext a b → part b = a) :
    Reads (r >>= next) (fun b => valid (part b) ∧ validNext (part b) b)
      (fun b => bytes (part b) ++ bytesNext b) := by
  intro input b rest
  rw [StateT.run_bind, bind_ok]
  constructor
  · rintro ⟨⟨a, middle⟩, read, continued⟩
    obtain ⟨ok, rfl⟩ := (first _ _ _).mp read
    obtain ⟨ok', rfl⟩ := (second _ _ _ _).mp continued
    obtain rfl := own a b ok ok'
    exact ⟨⟨ok, ok'⟩, by simp⟩
  · rintro ⟨⟨ok, ok'⟩, rfl⟩
    refine ⟨(part b, bytesNext b ++ rest), (first _ _ _).mpr ⟨ok, by simp⟩, ?_⟩
    exact (second _ _ _ _).mpr ⟨ok', rfl⟩

/-- The next field of a record, when what follows builds the record around it. -/
theorem field (first : Reads r valid bytes) (part : β → α) {next : α → Reader ε β}
    {validNext : β → Prop} {bytesNext : β → Bytes} {build : α → β → β}
    (second : ∀ a, Reads (next a) (fun b => validNext b ∧ b = build a b) bytesNext)
    (made : ∀ a b, part (build a b) = a) :
    Reads (r >>= next) (fun b => (valid (part b) ∧ validNext b) ∧ b = build (part b) b)
      (fun b => bytes (part b) ++ bytesNext b) := by
  refine (first.bind part second ?_).congr (by simp [and_assoc]) (by simp)
  rintro a b - ⟨-, built⟩
  rw [built, made]

theorem map (last : Reads r valid bytes) (part : β → α) (make : α → β)
    (made : ∀ a, part (make a) = a) :
    Reads (r >>= fun a => Pure.pure (make a)) (fun b => valid (part b) ∧ b = make (part b))
      (fun b => bytes (part b)) := by
  refine (last.bind part (fun a => pure (make a)) ?_).congr (by simp) (by simp)
  rintro a _ - rfl
  exact made a

theorem wrap (inner : Reads r valid bytes) (make : α → β) (bytesOf : β → Bytes)
    (same : ∀ a, bytesOf (make a) = bytes a) :
    Reads (r >>= fun a => Pure.pure (make a)) (fun b => ∃ a, valid a ∧ make a = b) bytesOf := by
  intro input b rest
  rw [StateT.run_bind, bind_ok]
  constructor
  · rintro ⟨⟨a, middle⟩, read, made⟩
    obtain ⟨ok, rfl⟩ := (inner _ _ _).mp read
    cases made
    exact ⟨⟨a, ok, rfl⟩, by rw [same]⟩
  · rintro ⟨⟨a, ok, rfl⟩, rfl⟩
    exact ⟨(a, rest), (inner _ _ _).mpr ⟨ok, by rw [same]⟩, rfl⟩

theorem take (short : ε) (count : Nat) :
    Reads (Reader.take short count) (·.length = count) id := by
  intro input a rest
  simp only [Reader.take, StateT.run]
  split
  · rename_i enough
    constructor
    · rintro ⟨rfl, rfl⟩
      exact ⟨List.length_take_of_le enough, (List.take_append_drop count input).symm⟩
    · rintro ⟨rfl, rfl⟩
      simp
  · rename_i short
    simp only [reduceCtorEq, false_iff, id]
    rintro ⟨rfl, rfl⟩
    simp at short

end Reads

/-- Given these bytes, whatever follows them, the reader finds `a` and takes just them. -/
def Recovers (r : Reader ε α) (a : α) (bytes : Bytes) : Prop :=
  ∀ rest, r.run (bytes ++ rest) = .ok (a, rest)

theorem Reads.recovers {r : Reader ε α} {valid : α → Prop} {bytes : α → Bytes} (reads : Reads r valid bytes)
    {a : α} (ok : valid a) : Recovers r a (bytes a) :=
  fun _ => (reads _ _ _).mpr ⟨ok, rfl⟩

namespace Recovers

variable {r : Reader ε α} {a : α} {b : β} {bytes bytes' : Bytes}

theorem pure (a : α) : Recovers (Pure.pure a : Reader ε α) a [] := fun _ => rfl

theorem lift {x : Except ε α} (found : x = .ok a) : Recovers (StateT.lift x : Reader ε α) a [] := by
  subst found
  exact fun _ => rfl

theorem bind {f : α → Reader ε β} (first : Recovers r a bytes) (second : Recovers (f a) b bytes') :
    Recovers (r >>= f) b (bytes ++ bytes') := by
  intro rest
  rw [StateT.run_bind, List.append_assoc, first]
  exact second rest

theorem map (last : Recovers r a bytes) (make : α → β) :
    Recovers (r >>= fun a => Pure.pure (make a)) (make a) bytes := by
  have whole := last.bind (f := fun a => Pure.pure (make a)) (pure (make a))
  rwa [List.append_nil] at whole

end Recovers

/-- Of an input with `count` bytes or more, the reader looks at just the first `count`. -/
def Takes (r : Reader ε α) (count : Nat) : Prop :=
  ∀ front rest : Bytes, front.length = count →
    r.run (front ++ rest) = (r.run front).map fun p => (p.1, rest)

/-- It accepts all of them. -/
structure Fixed (r : Reader ε α) (count : Nat) : Prop where
  takes : Takes r count
  accepts : ∀ front : Bytes, front.length = count → ∃ a, r.run front = .ok (a, [])

/-- The last of them matters. -/
structure Sharp (r : Reader ε α) (count : Nat) : Prop where
  takes : Takes r count
  tells : ∀ front : Bytes, front.length + 1 = count →
    (r.run (front ++ [0])).map Prod.fst ≠ (r.run (front ++ [1])).map Prod.fst

section Extent

variable {r : Reader ε α} {next : α → Reader ε β} {count more : Nat}

theorem Takes.pure (a : α) : Takes (Pure.pure a : Reader ε α) 0 := by
  intro front rest empty
  rw [List.length_eq_zero_iff.mp empty]
  rfl

theorem Takes.lift (x : Except ε α) : Takes (StateT.lift x : Reader ε α) 0 := by
  intro front rest empty
  rw [List.length_eq_zero_iff.mp empty]
  cases x <;> rfl

theorem Takes.bind (first : Takes r count) (second : ∀ a, Takes (next a) more) :
    Takes (r >>= next) (count + more) := by
  intro front rest size
  obtain ⟨front, back, rfl, size, size'⟩ : ∃ f b, front = f ++ b ∧ f.length = count ∧ b.length = more :=
    ⟨front.take count, front.drop count, by simp, by simp; omega, by simp; omega⟩
  rw [StateT.run_bind, StateT.run_bind, List.append_assoc, first _ _ size, first _ back size]
  cases r.run front with
  | error e => rfl
  | ok p => exact second p.1 back rest size'

theorem Takes.map (last : Takes r count) (make : α → β) :
    Takes (r >>= fun a => Pure.pure (make a)) count :=
  last.bind fun a => .pure (make a)

theorem Fixed.bind (first : Fixed r count) (second : ∀ a, Fixed (next a) more) :
    Fixed (r >>= next) (count + more) where
  takes := first.takes.bind fun a => (second a).takes
  accepts := by
    intro front size
    have here : (front.take count).length = count := by simp; omega
    obtain ⟨a, read⟩ := first.accepts (front.take count) here
    obtain ⟨b, read'⟩ := (second a).accepts (front.drop count) (by simp; omega)
    refine ⟨b, ?_⟩
    rw [← List.take_append_drop count front, StateT.run_bind, first.takes _ _ here, read]
    exact read'

theorem Fixed.map (last : Fixed r count) (make : α → β) :
    Fixed (r >>= fun a => Pure.pure (make a)) count :=
  last.bind fun a => ⟨.pure (make a), fun front empty => ⟨make a, by
    rw [List.length_eq_zero_iff.mp empty]
    rfl⟩⟩

theorem Sharp.pure (a : α) : Sharp (Pure.pure a : Reader ε α) 0 :=
  ⟨.pure a, fun _ size => absurd size (Nat.succ_ne_zero _)⟩

theorem Sharp.bind (first : Fixed r count) (second : ∀ a, Sharp (next a) more) (some : 0 < more) :
    Sharp (r >>= next) (count + more) where
  takes := first.takes.bind fun a => (second a).takes
  tells := by
    intro front size
    have here : (front.take count).length = count := by simp; omega
    obtain ⟨a, read⟩ := first.accepts (front.take count) here
    have apart := (second a).tells (front.drop count) (by simp; omega)
    have run (byte : UInt8) :
        (r >>= next).run (front ++ [byte]) = (next a).run (front.drop count ++ [byte]) := by
      rw [← List.take_append_drop count front, List.append_assoc, StateT.run_bind,
        first.takes _ _ here, read]
      simp [Except.map, Bind.bind, Except.bind]
    rwa [run, run]

theorem Sharp.map {make : α → β} (last : Sharp r count) (own : Function.Injective make) :
    Sharp (r >>= fun a => Pure.pure (make a)) count where
  takes := last.takes.map make
  tells := by
    intro front size same
    have run (input : Bytes) : ((r >>= fun a => Pure.pure (make a)).run input).map Prod.fst =
        ((r.run input).map Prod.fst).map make := by
      rw [StateT.run_bind]
      cases r.run input <;> rfl
    rw [run, run] at same
    apply last.tells front size
    revert same
    cases (r.run (front ++ [0])).map Prod.fst <;> cases (r.run (front ++ [1])).map Prod.fst <;>
      simp [Except.map, own.eq_iff]

theorem Takes.take (short : ε) (count : Nat) : Takes (Reader.take short count) count := by
  rintro front rest rfl
  simp [Reader.take, StateT.run, Except.map]

end Extent

end Reader

structure Filling (size : Nat) where
  front : Bytes
  free : Bytes
  len : Nat
  whole : front.length + free.length = size

/-- A writer stops when its next bytes no longer fit. -/
abbrev Writer (size : Nat) := StateT (Filling size) Option

namespace Filling

variable {size : Nat} {s : Filling size} {bytes bytes' : Bytes}

def empty (size : Nat) : Filling size := ⟨[], List.replicate size 0, 0, by simp⟩

def buffer (s : Filling size) : Vector UInt8 size := ⟨(s.front ++ s.free).toArray, by simp [s.whole]⟩

def put (s : Filling size) (bytes : Bytes) (fits : bytes.length ≤ s.free.length) : Filling size where
  front := s.front ++ bytes
  free := s.free.drop bytes.length
  len := s.len + bytes.length
  whole := by
    have whole := s.whole
    simp only [List.length_append, List.length_drop]
    omega

theorem put_append (fits : (bytes ++ bytes').length ≤ s.free.length)
    (first : bytes.length ≤ s.free.length) (second : bytes'.length ≤ (s.put bytes first).free.length) :
    (s.put bytes first).put bytes' second = s.put (bytes ++ bytes') fits := by
  simp [put, Nat.add_assoc]

end Filling

namespace Writer

variable {size : Nat} {w w' : Writer size Unit} {bytes bytes' : Bytes}

def put (bytes : Bytes) : Writer size Unit := fun s =>
  if fits : bytes.length ≤ s.free.length then some ((), s.put bytes fits) else none

def Writes (w : Writer size Unit) (bytes : Bytes) : Prop :=
  ∀ s fits, w.run s = some ((), s.put bytes fits)

namespace Writes

theorem put (bytes : Bytes) : Writes (Writer.put bytes : Writer size Unit) bytes := by
  intro s fits
  simp [Writer.put, StateT.run, fits]

theorem nothing : Writes (Pure.pure () : Writer size Unit) [] := by
  intro s fits
  have written : (Pure.pure () : Writer size Unit).run s = some ((), s) := rfl
  simp [written, Filling.put]

theorem seq (first : Writes w bytes) (second : Writes w' bytes') :
    Writes (do w; w') (bytes ++ bytes') := by
  intro s fits
  have size : bytes.length + bytes'.length ≤ s.free.length := List.length_append ▸ fits
  have room : bytes.length ≤ s.free.length := by omega
  have left : bytes'.length ≤ (s.put bytes room).free.length := by
    simp only [Filling.put, List.length_drop]
    omega
  rw [StateT.run_bind, first s room]
  exact (second _ left).trans (congrArg (fun t => some ((), t)) (Filling.put_append fits room left))

theorem forM {α : Type} {f : α → Writer size Unit} {bytesOf : α → Bytes}
    (each : ∀ a, Writes (f a) (bytesOf a)) (items : List α) :
    Writes (items.forM f) (items.flatMap bytesOf) := by
  induction items with
  | nil => exact nothing
  | cons a items ih => exact (each a).seq ih

end Writes

end Writer

def beBytes : Nat → Nat → Bytes
  | 0, _ => []
  | width + 1, value => beBytes width (value / 256) ++ [UInt8.ofNat value]

def beValue (bytes : Bytes) : Nat := bytes.foldl (fun value byte => value * 256 + byte.toNat) 0

@[simp] theorem length_beBytes (width value : Nat) : (beBytes width value).length = width := by
  induction width generalizing value with
  | zero => rfl
  | succ width ih => simp [beBytes, ih]

theorem beValue_append (bytes : Bytes) (byte : UInt8) :
    beValue (bytes ++ [byte]) = beValue bytes * 256 + byte.toNat := by
  simp [beValue]

theorem beValue_beBytes {width value : Nat} (fits : value < 256 ^ width) :
    beValue (beBytes width value) = value := by
  induction width generalizing value with
  | zero => simp_all [beBytes, beValue]
  | succ width ih =>
    have smaller : value / 256 < 256 ^ width := by
      omega
    rw [beBytes, beValue_append, ih smaller]
    simp
    omega

theorem beBytes_beValue (bytes : Bytes) : beBytes bytes.length (beValue bytes) = bytes := by
  induction bytes using List.reverseRecOn with
  | nil => rfl
  | append_singleton bytes byte ih =>
    have small := byte.toNat_lt
    have upper : (beValue bytes * 256 + byte.toNat) / 256 = beValue bytes := by omega
    have lower : UInt8.ofNat (beValue bytes * 256 + byte.toNat) = byte := by
      simp
    rw [List.length_append, List.length_singleton, beBytes, beValue_append, upper, lower, ih]

theorem beValue_lt (bytes : Bytes) : beValue bytes < 256 ^ bytes.length := by
  induction bytes using List.reverseRecOn with
  | nil => simp [beValue]
  | append_singleton bytes byte ih =>
    have small := byte.toNat_lt
    rw [beValue_append, List.length_append, List.length_singleton, Nat.pow_succ]
    omega

section Number

variable {ε α : Type} {width : Nat} {ofNat : Nat → α} {toNat : α → Nat}

theorem ofNat_beValue (fits : ∀ a, toNat a < 256 ^ width) (back : ∀ a, ofNat (toNat a) = a)
    (forth : ∀ n, n < 256 ^ width → toNat (ofNat n) = n) {bytes : Bytes}
    (size : bytes.length = width) {a : α} :
    ofNat (beValue bytes) = a ↔ bytes = beBytes width (toNat a) := by
  subst size
  constructor
  · rintro rfl
    rw [forth _ (beValue_lt bytes), beBytes_beValue]
  · intro same
    rw [same, beValue_beBytes (fits a), back]

theorem Reader.Reads.number (short : ε) (width : Nat) (ofNat : Nat → α) (toNat : α → Nat)
    (fits : ∀ a, toNat a < 256 ^ width) (back : ∀ a, ofNat (toNat a) = a)
    (forth : ∀ n, n < 256 ^ width → toNat (ofNat n) = n) :
    Reads (Reader.take short width >>= fun bytes => Pure.pure (ofNat (beValue bytes)))
      (fun _ => True) (fun a => beBytes width (toNat a)) := by
  refine ((take short width).bind (fun a => beBytes width (toNat a)) (fun bytes => .pure _) ?_).congr
    ?_ ?_
  · rintro bytes _ size rfl
    exact ((ofNat_beValue fits back forth size).mp rfl).symm
  · intro a
    simp [beValue_beBytes (fits a), back]
  · intro a _
    simp

theorem Reader.Fixed.number (short : ε) (width : Nat) (ofNat : Nat → α) :
    Fixed (Reader.take short width >>= fun bytes => Pure.pure (ofNat (beValue bytes))) width where
  takes := (Takes.take short width).map _
  accepts := by
    rintro front rfl
    refine ⟨ofNat (beValue front), ?_⟩
    rw [StateT.run_bind]
    simp only [Reader.take, StateT.run, Nat.le_refl, if_true, List.take_length, List.drop_length]
    rfl

theorem Reader.Sharp.number (short : ε) (width : Nat) (ofNat : Nat → α) (toNat : α → Nat)
    (fits : ∀ a, toNat a < 256 ^ width) (back : ∀ a, ofNat (toNat a) = a)
    (forth : ∀ n, n < 256 ^ width → toNat (ofNat n) = n) :
    Sharp (Reader.take short width >>= fun bytes => Pure.pure (ofNat (beValue bytes))) width where
  takes := (Takes.take short width).map _
  tells := by
    intro front size
    have whole (byte : UInt8) : (front ++ [byte]).length = width := by simpa using size
    have run (byte : UInt8) :
        ((Reader.take short width >>= fun bytes =>
          (Pure.pure (ofNat (beValue bytes)) : Reader ε α)).run (front ++ [byte])).map Prod.fst =
        .ok (ofNat (beValue (front ++ [byte]))) := by
      rw [StateT.run_bind, ← whole byte]
      simp only [Reader.take, StateT.run, Nat.le_refl, if_true, List.take_length]
      rfl
    have own (byte : UInt8) :
        front ++ [byte] = beBytes width (toNat (ofNat (beValue (front ++ [byte])))) :=
      (ofNat_beValue fits back forth (whole byte)).mp rfl
    rw [run, run]
    intro same
    have bytes := (own 0).trans (by rw [Except.ok.inj same, ← own 1])
    simp at bytes

end Number

end DisplayMux
