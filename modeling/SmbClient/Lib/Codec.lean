import Mathlib.Data.List.Forall2
import SmbClient.Lib.Octets

/-!
# Readers

A reader takes what it reads off the front of the bytes and keeps the position in the stream, on
which alignment depends. `Reads r p bs a rest` says that `r` takes exactly `bs` where `rest`
follows. Its rules follow the structure of a reader, and those that end in `_iff` also take it
apart. `Gives r Q` says what is known of all that `r` returns, whatever it reads.
-/

namespace Codec

/-- An unsigned number of `width` bytes. -/
abbrev Word (width : ℕ) : Type := Fin (256 ^ width)

def Word.ofNat (width value : ℕ) : Word width :=
  ⟨value % 256 ^ width, Nat.mod_lt _ (Nat.pow_pos (by decide))⟩

inductive Fault where
  | refused
  | panicked
deriving DecidableEq

structure Cursor where
  position : ℕ
  rest : Octets
deriving DecidableEq

abbrev Reader (α : Type) : Type := StateT Cursor (Except Fault) α

variable {α β : Type}

/-! ## Reading -/

def fail (fault : Fault) : Reader α := fun _ => .error fault

def require (condition : Bool) : Reader Unit := if condition then pure () else fail .refused

def take (n : ℕ) : Reader Octets := fun c =>
  if n ≤ c.rest.length then .ok (c.rest.take n, ⟨c.position + n, c.rest.drop n⟩) else
    .error .refused

def word (width : ℕ) : Reader (Word width) := do
  return ⟨(← take width).decode % 256 ^ width, Nat.mod_lt _ (Nat.pow_pos (by decide))⟩

/-- A value of an enumeration by its code. -/
def variant (width : ℕ) (code : α → ℕ) (all : List α) : Reader α := do
  match all.find? (code · = (← word width)) with
  | some a => return a
  | none => fail .refused

def many (r : Reader α) : ℕ → Reader (List α)
  | 0 => pure []
  | n + 1 => do
    let a ← r
    let as ← many r n
    return a :: as

def untilEof : Reader Octets := fun c => .ok (c.rest, ⟨c.position + c.rest.length, []⟩)

/-- A reader of a stream that ends after `n` bytes; the outer stream goes on where it stopped. -/
def limited (n : ℕ) (r : Reader α) : Reader α := fun c =>
  match r ⟨c.position, c.rest.take n⟩ with
  | .ok (a, c') => .ok (a, ⟨c'.position, c'.rest ++ c.rest.drop n⟩)
  | .error fault => .error fault

/-- The bytes up to the next multiple of `n`. -/
def padding (n position : ℕ) : ℕ := (n - position % n) % n

/-- A seek, which may leave the bytes behind. -/
def align (n : ℕ) : Reader Unit := fun c =>
  .ok ((), ⟨c.position + padding n c.position, c.rest.drop (padding n c.position)⟩)

/-! ## What a reader takes -/

def Reads (r : Reader α) (p : ℕ) (bs : Octets) (a : α) (rest : Octets) : Prop :=
  r ⟨p, bs ++ rest⟩ = .ok (a, ⟨p + bs.length, rest⟩)

namespace Reads

variable {r : Reader α} {f : α → Reader β} {p n : ℕ} {bs bs' rest : Octets} {a : α} {b : β}

theorem pure (a : α) : Reads (Pure.pure a) p [] a rest := rfl

/-- Where the first reader stops the second one goes on, and there is no other way to read both. -/
theorem bind_iff (h : Reads r p bs a (bs' ++ rest)) :
    Reads (r >>= f) p (bs ++ bs') b rest ↔ Reads (f a) (p + bs.length) bs' b rest := by
  unfold Reads at h ⊢
  rw [List.append_assoc, List.length_append, ← Nat.add_assoc]
  simp only [Bind.bind, StateT.bind, h, Except.bind]

theorem bind (h : Reads r p bs a (bs' ++ rest)) (h' : Reads (f a) (p + bs.length) bs' b rest) :
    Reads (r >>= f) p (bs ++ bs') b rest :=
  (bind_iff h).2 h'

theorem map {f : α → β} (h : Reads r p bs a rest) :
    Reads (r >>= fun a => Pure.pure (f a)) p bs (f a) rest := by
  unfold Reads at h ⊢
  simp only [Bind.bind, StateT.bind, h]
  rfl

theorem map_iff {f : α → β} (injective : f.Injective) :
    Reads (r >>= fun a => Pure.pure (f a)) p bs (f a) rest ↔ Reads r p bs a rest := by
  refine ⟨fun h => ?_, map⟩
  unfold Reads at h ⊢
  simp only [Bind.bind, StateT.bind, Except.bind] at h
  split at h
  · cases h
  · rename_i result hr
    obtain ⟨value, cursor⟩ := Prod.mk.inj (Except.ok.inj h)
    rw [hr, ← injective value, ← cursor]

theorem require_iff {condition : Bool} {f : Unit → Reader β} :
    Reads (Codec.require condition >>= f) p bs b rest ↔ condition = true ∧
    Reads (f ()) p bs b rest := by
  cases condition with
  | false => exact iff_of_false nofun (fun h => nomatch h.1)
  | true => exact (and_iff_right rfl).symm

theorem require {condition : Bool} {f : Unit → Reader β} (holds : condition = true)
    (h : Reads (f ()) p bs b rest) : Reads (Codec.require condition >>= f) p bs b rest :=
  require_iff.2 ⟨holds, h⟩

theorem take (h : bs.length = n) : Reads (Codec.take n) p bs bs rest := by
  subst h
  unfold Reads Codec.take
  simp

theorem word {width : ℕ} (x : Word width) :
    Reads (Codec.word width) p (Octets.encode width x) x rest := by
  have h := (take (Octets.length_encode width x) : Reads _ p _ _ rest).map
    (f := fun bs =>
      (⟨bs.decode % 256 ^ width, Nat.mod_lt _ (Nat.pow_pos (by decide))⟩ : Word width))
  simp only [Octets.decode_encode_mod, Nat.mod_eq_of_lt x.isLt] at h
  exact h

theorem variant {width : ℕ} {code : α → ℕ} {all : List α} (bound : code a < 256 ^ width)
    (found : all.find? (code · = code a) = some a) :
    Reads (Codec.variant width code all) p (Octets.encode width (code a)) a rest := by
  have h := (word ⟨code a, bound⟩ : Reads _ p _ _ rest)
  unfold Reads Codec.variant at *
  simp only [Bind.bind, StateT.bind, h, Except.bind, found]
  rfl

theorem many {xs : List α} {bss : List Octets}
    (h : List.Forall₂ (fun x bs => ∀ p rest, Reads r p bs x rest) xs bss) :
    Reads (Codec.many r xs.length) p bss.flatten xs rest := by
  induction h generalizing p with
  | nil => exact .pure []
  | cons first _ ih => exact .bind (first _ _) (.map ih)

theorem many_map {write : α → Octets} {xs : List α} (h : ∀ x p rest, Reads r p (write x) x rest) :
    Reads (Codec.many r xs.length) p (xs.map write).flatten xs rest := by
  apply many
  rw [List.forall₂_map_right_iff]
  exact List.forall₂_same.2 fun x _ => h x

/-- What reads to the end of the stream reads back what it wrote only if nothing follows. -/
theorem untilEof_iff {g : Octets → β} :
    Reads (Codec.untilEof >>= fun bs => Pure.pure (g bs)) p bs (g bs) rest ↔ rest = [] := by
  have reads : (Codec.untilEof >>= fun bs => Pure.pure (g bs)) ⟨p, bs ++ rest⟩ =
      .ok (g (bs ++ rest), ⟨p + (bs ++ rest).length, []⟩) := rfl
  refine ⟨fun h => ?_, fun h => ?_⟩
  · have same := Except.ok.inj (reads.symm.trans h)
    exact (congrArg (fun result => result.2.rest) same).symm
  · subst h
    simpa [Reads] using reads

theorem limited_iff (long : bs.length ≤ n) :
    Reads (Codec.limited n r) p bs a rest ↔ Reads r p bs a (rest.take (n - bs.length)) := by
  unfold Reads Codec.limited
  simp only [List.take_append, List.take_of_length_le long, List.drop_append,
    List.drop_eq_nil_of_le long, List.nil_append]
  cases r ⟨p, bs ++ rest.take (n - bs.length)⟩ with
  | error fault => simp
  | ok result =>
    obtain ⟨a', position, left⟩ := result
    have back : left ++ rest.drop (n - bs.length) = rest ↔ left = rest.take (n - bs.length) := by
      have split := List.take_append_drop (n - bs.length) rest
      exact ⟨fun h => List.append_cancel_right (h.trans split.symm), fun h => h ▸ split⟩
    simp [back]

theorem align : Reads (Codec.align n) p (List.replicate (padding n p) 0) () rest := by
  unfold Reads Codec.align
  simp

theorem aligned {f : Unit → Reader β} (h : p % n = 0) (reads : Reads (f ()) p bs b rest) :
    Reads (Codec.align n >>= f) p bs b rest := by
  have none : padding n p = 0 := by simp [padding, h]
  have skips := (align : Reads (Codec.align n) p _ _ (bs ++ rest))
  rw [none] at skips
  exact .bind skips reads

end Reads

/-! ## What a reader can return -/

/-- Where the reader starts, what it returns and where it stops. -/
def Gives (r : Reader α) (Q : ℕ → α → ℕ → Prop) : Prop :=
  ∀ c a c', r c = .ok (a, c') → Q c.position a c'.position

namespace Gives

variable {r : Reader α} {f : α → Reader β} {P : ℕ → α → ℕ → Prop} {Q : ℕ → β → ℕ → Prop}

theorem bind (first : Gives r P)
    (second : ∀ a, Gives (f a) fun p' b q => ∀ p, P p a p' → Q p b q) : Gives (r >>= f) Q := by
  intro c b c' h
  simp only [Bind.bind, StateT.bind, Except.bind] at h
  split at h
  · cases h
  · rename_i result hr
    exact second _ _ _ _ h _ (first _ _ _ hr)

/-- A step of which nothing is needed. -/
theorem skip {Q : β → Prop} (second : ∀ a, Gives (f a) fun _ b _ => Q b) :
    Gives (r >>= f) fun _ b _ => Q b := by
  have any : Gives r fun _ _ _ => True := fun _ _ _ _ => trivial
  exact any.bind fun a c b c' h _ _ => second a c b c' h

theorem map {g : α → β} (h : Gives r P) (image : ∀ p a q, P p a q → Q p (g a) q) :
    Gives (r >>= fun a => Pure.pure (g a)) Q := by
  refine h.bind fun a c b c' hb p ha => ?_
  cases hb
  exact image p a _ ha

theorem require (condition : Bool) : Gives (Codec.require condition) fun p _ q => q = p := by
  intro c a c' h
  cases condition <;> cases h
  rfl

theorem take (n : ℕ) : Gives (Codec.take n) fun p bs q => bs.length = n ∧ q = p + n := by
  intro c bs c' h
  unfold Codec.take at h
  split at h <;> cases h
  exact ⟨List.length_take_of_le ‹_›, rfl⟩

theorem word (width : ℕ) : Gives (Codec.word width) fun p _ q => q = p + width :=
  (take width).map fun _ _ _ h => h.2

theorem variant (width : ℕ) (code : α → ℕ) (all : List α) :
    Gives (Codec.variant width code all) fun p _ q => q = p + width := by
  refine (word width).bind fun x c a c' h p stop => ?_
  cases found : all.find? (code · = x) <;> rw [found] at h <;> cases h
  exact stop

theorem align (n : ℕ) : Gives (Codec.align n) fun p _ q => q = p + padding n p := by
  rintro c a c' ⟨⟩
  rfl

theorem many {size : ℕ} (h : Gives r fun p _ q => q = p + size) :
    ∀ n, Gives (Codec.many r n) fun p as q => as.length = n ∧ q = p + n * size
  | 0 => by
    rintro c as c' ⟨⟩
    simp
  | n + 1 => by
    refine h.bind fun a => (many h n).map ?_
    rintro q rest q' ⟨length, stop⟩ p first
    refine ⟨by simp [length], ?_⟩
    rw [stop, first, Nat.succ_mul]
    omega

theorem all {P : α → Prop} (h : Gives r fun _ a _ => P a) :
    ∀ n, Gives (Codec.many r n) fun _ as _ => as.length = n ∧ ∀ a ∈ as, P a
  | 0 => by
    rintro c as c' ⟨⟩
    simp
  | n + 1 => by
    refine h.bind fun a => (all h n).map ?_
    rintro _ rest _ ⟨length, rest⟩ _ first
    exact ⟨by simp [length], List.forall_mem_cons.2 ⟨first, rest⟩⟩

end Gives

end Codec
