import SmbClient.Lib.Codec

/-!
# Arrays in NDR64 (`smb-rpc/ndr64`, `interface/srvsvc.rs`)

The structures of an array are read and written in two stages: first their members and the ids of
what they point at, then what they point at. Values are aligned to 8 bytes, so what is written
depends on the position. An `NdrPtr` is an id while only that is read, and an optional value when it
is resolved.

A build with debug assertions has its own reader, which panics where the assertion of a pointer
fails (`Asserts`). `NdrArray.Tame` says exactly on which bytes neither build panics.
-/

namespace Rpc.Ndr

open Codec Octets

variable {α β E F R S : Type}

/-! ## Alignment -/

abbrev Writer : Type := ℕ → Octets

def Writer.append (w w' : Writer) : Writer := fun p => w p ++ w' (p + (w p).length)

instance : Append Writer := ⟨Writer.append⟩

/-- `align_before`. -/
def Writer.aligned (w : Writer) : Writer := fun p =>
  List.replicate (padding 8 p) 0 ++ w (p + padding 8 p)

def aligned (r : Reader α) : Reader α := do
  align 8
  r

def writeU64 (x : ℕ) : Writer := .aligned fun _ => encode 8 x

def readU64 : Reader (Word 8) := aligned (word 8)

theorem reads_aligned {w : Writer} {r : Reader α} {a : α} {rest : Octets}
    (h : ∀ p, Reads r p (w p) a rest) (p : ℕ) : Reads (aligned r) p (w.aligned p) a rest :=
  .bind .align (by simpa using h _)

theorem reads_u64 {n : ℕ} (short : n < 256 ^ 8) (p : ℕ) (rest : Octets) :
    Reads readU64 p (writeU64 n p) ⟨n, short⟩ rest :=
  reads_aligned (fun _ => .word (⟨n, short⟩ : Word 8)) p

/-! ## Readers that do not panic -/

def Calm (r : Reader α) : Prop := ∀ c, r c ≠ .error .panicked

namespace Calm

theorem pure (a : α) : Calm (Pure.pure a) := by
  intro c h
  cases h

variable {r : Reader α}

theorem bind {f : α → Reader β} (h : Calm r) (h' : ∀ a, Calm (f a)) : Calm (r >>= f) := by
  intro c
  have first := h c
  simp only [Bind.bind, StateT.bind, Except.bind]
  cases read : r c with
  | error fault => simpa [read] using first
  | ok result => exact h' result.1 result.2

theorem require (condition : Bool) : Calm (require condition) := by
  intro c h
  cases condition <;> cases h

theorem word (width : ℕ) : Calm (word width) := by
  refine bind (fun c => ?_) fun _ => pure _
  unfold take
  split <;> simp

theorem many (h : Calm r) (n : ℕ) : Calm (many r n) := by
  induction n with
  | zero => exact pure []
  | succ n ih => exact bind h fun _ => bind ih fun _ => pure _

theorem aligned (h : Calm r) : Calm (aligned r) :=
  bind (fun c => by simp [align]) fun _ => h

theorem u64 : Calm readU64 := aligned (word 8)

end Calm

/-- The reader comes to a place where `G` holds. -/
def After (r : Reader α) (G : α → Cursor → Prop) (c : Cursor) : Prop :=
  ∃ a c', r c = .ok (a, c') ∧ G a c'

theorem after_ok {r : Reader α} {G : α → Cursor → Prop} {c c' : Cursor} {a : α}
    (read : r c = .ok (a, c')) : After r G c ↔ G a c' := by
  simp [After, read]

theorem Calm.panics_iff {r : Reader α} {f : α → Reader β} (calm : Calm r) (c : Cursor) :
    (r >>= f) c = .error .panicked ↔ After r (fun a c' => f a c' = .error .panicked) c := by
  have first := calm c
  simp only [Bind.bind, StateT.bind]
  cases read : r c with
  | error fault => simpa [After, read, Except.bind] using first
  | ok result => exact (after_ok (G := fun a c' => f a c' = .error .panicked) read).symm

/-- The first reader is the second one with assertions, which fail where `F` holds at the start. -/
def Asserts (r r' : Reader α) (F : Cursor → Prop) : Prop :=
  ∀ c, (F c → r c = .error .panicked) ∧ (¬ F c → r c = r' c)

namespace Asserts

theorem refl (r : Reader α) : Asserts r r fun _ => False := fun _ => ⟨nofun, fun _ => rfl⟩

variable {r r' : Reader α} {f f' : α → Reader β} {F : Cursor → Prop} {G : α → Cursor → Prop}

theorem panics_iff (h : Asserts r r' F) (calm : Calm r') (c : Cursor) :
    r c = .error .panicked ↔ F c :=
  ⟨fun panics => by_contra fun holds => calm c (((h c).2 holds).symm.trans panics), (h c).1⟩

theorem bind (h : Asserts r r' F) (h' : ∀ a, Asserts (f a) (f' a) (G a)) :
    Asserts (r >>= f) (r' >>= f') fun c => F c ∨ After r' G c := by
  intro c
  simp only [Bind.bind, StateT.bind]
  by_cases fails : F c
  · simp [(h c).1 fails, fails, Except.bind]
  rw [(h c).2 fails]
  cases read : r' c with
  | error fault => simp [fails, After, read, Except.bind]
  | ok result =>
    rw [after_ok read]
    simpa [fails, Except.bind] using h' result.1 result.2

theorem map {g : α → β} (h : Asserts r r' F) :
    Asserts (r >>= fun a => Pure.pure (g a)) (r' >>= fun a => Pure.pure (g a)) F := by
  have both := h.bind fun a => Asserts.refl (Pure.pure (g a) : Reader β)
  simpa [After] using both

theorem aligned (h : Asserts r r' F) :
    Asserts (aligned r) (aligned r') (After (align 8) fun _ => F) := by
  have both := (Asserts.refl (align 8)).bind fun _ => h
  simp only [false_or] at both
  exact both

end Asserts

/-! ## Values and structures -/

/-- A type that can be read and written. -/
structure Binary (α : Type) where
  write : α → Writer
  read : Reader α
  Valid : α → Prop
  reads : ∀ a, Valid a → ∀ p rest, Reads read p (write a p) a rest
  calm : Calm read

def word (width : ℕ) : Binary (Word width) where
  write x _ := encode width x
  read := Codec.word width
  Valid _ := True
  reads x _ _ _ := .word x
  calm := .word width

/-- The allocated length is not compared with the actual one. -/
def NdrString : Binary (List (Word 2)) where
  write data := writeU64 data.length ++ (writeU64 0 ++ (writeU64 data.length ++
    .aligned fun _ => (data.map (encode 2 ·.val)).flatten))
  read := do
    let _allocLength ← readU64
    require ((← readU64) = 0)
    let actualCount ← readU64
    aligned (many (Codec.word 2) actualCount)
  Valid data := data.length < 256 ^ 8
  reads data short p rest := by
    refine .bind (reads_u64 short _ _)
      (.bind (reads_u64 (Nat.pow_pos (by decide)) _ _) (.require ?_ ?_))
    · exact decide_eq_true rfl
    · exact .bind (reads_u64 short _ _) (reads_aligned (fun _ => .many_map fun x _ _ => .word x) _)
  calm := .bind .u64 fun _ => .bind .u64 fun _ => .bind (.require _) fun _ =>
    .bind .u64 fun count =>
    .aligned (.many (.word 2) count)

/-- A structure of an array: `E` as it is, and `R` after the first stage. `debug` says that the
build has debug assertions. -/
structure Element (E R : Type) where
  writeRefs : E → Writer
  writeData : E → Writer
  readRefs : Reader R
  readData : Bool → R → Reader E
  Valid : E → Prop
  reads : ∀ e, Valid e → ∃ refs, (∀ p rest, Reads readRefs p (writeRefs e p) refs rest) ∧
    ∀ debug p rest, Reads (readData debug refs) p (writeData e p) e rest
  calmRefs : Calm readRefs
  calmData : ∀ refs, Calm (readData false refs)
  /-- An id is not the one the writer uses, and everything before it can be read. -/
  Foreign : R → Cursor → Prop
  asserts : ∀ refs, Asserts (readData true refs) (readData false refs) (Foreign refs)

namespace Element

def refIdUniqueDefault : ℕ := 0x20000

/-- `NdrPtr<T>`. -/
def ptr (b : Binary α) : Element (Option α) (Word 8) where
  writeRefs value := writeU64 (if value.isSome then refIdUniqueDefault else 0)
  writeData value := (value.map fun a => (b.write a).aligned).getD fun _ => []
  readRefs := readU64
  readData debug refId :=
    if refId = 0 then pure none
    else if debug && refId.val != refIdUniqueDefault then fail .panicked
    else some <$> aligned b.read
  Valid value := ∀ a ∈ value, b.Valid a
  reads value valid := by
    cases value with
    | none => exact ⟨_, reads_u64 (show 0 < 256 ^ 8 by decide), fun _ _ _ => .pure none⟩
    | some a =>
      refine ⟨_, reads_u64 (show refIdUniqueDefault < 256 ^ 8 by decide), fun debug p rest => ?_⟩
      rw [if_neg (by decide), if_neg (by simp)]
      exact .map (reads_aligned (fun p => b.reads a (valid a rfl) p rest) p)
  calmRefs := .u64
  calmData refId := by
    split
    · exact .pure none
    · exact .bind (.aligned b.calm) fun _ => .pure _
  Foreign refId _ := refId ≠ 0 ∧ refId.val ≠ refIdUniqueDefault
  asserts refId := by
    intro c
    by_cases null : refId = 0 <;> by_cases known : refId.val = refIdUniqueDefault <;>
      simp [null, known, fail]

/-- `NdrArrayStructureElement<T>`. -/
def direct (b : Binary α) : Element α α where
  writeRefs a := (b.write a).aligned
  writeData _ _ := []
  readRefs := aligned b.read
  readData _ prev := pure prev
  Valid := b.Valid
  reads a valid :=
    ⟨a, fun p rest => reads_aligned (fun p => b.reads a valid p rest) p, fun _ _ _ => .pure a⟩
  calmRefs := .aligned b.calm
  calmData prev := .pure prev
  Foreign _ _ := False
  asserts _ := .refl _

/-- Members one behind the other. -/
def pair (e : Element E R) (f : Element F S) : Element (E × F) (R × S) where
  writeRefs x := e.writeRefs x.1 ++ f.writeRefs x.2
  writeData x := e.writeData x.1 ++ f.writeData x.2
  readRefs := do
    let first ← e.readRefs
    let second ← f.readRefs
    return (first, second)
  readData debug refs := do
    let first ← e.readData debug refs.1
    let second ← f.readData debug refs.2
    return (first, second)
  Valid x := e.Valid x.1 ∧ f.Valid x.2
  reads x valid := by
    obtain ⟨first, refs, data⟩ := e.reads x.1 valid.1
    obtain ⟨second, refs', data'⟩ := f.reads x.2 valid.2
    exact ⟨(first, second), fun _ _ => .bind (refs _ _) (.map (refs' _ _)), fun debug _ _ =>
      .bind (data debug _ _) (.map (data' debug _ _))⟩
  calmRefs := .bind e.calmRefs fun _ => .bind f.calmRefs fun _ => .pure _
  calmData refs := .bind (e.calmData refs.1) fun _ => .bind (f.calmData refs.2) fun _ => .pure _
  Foreign refs c := e.Foreign refs.1 c ∨ After (e.readData false refs.1)
    (fun _ => f.Foreign refs.2) c
  asserts refs := (e.asserts refs.1).bind fun _ => (f.asserts refs.2).map

end Element

/-- The name of a share. -/
def shareInfo0 : Element (Option (List (Word 2))) (Word 8) := .ptr NdrString

/-- The name, the type and the remark. -/
def shareInfo1 :
    Element (Option (List (Word 2)) × Word 4 × Option (List (Word 2))) (Word 8 × Word 4 × Word 8) :=
  .pair (.ptr NdrString) (.pair (.direct (word 4)) (.ptr NdrString))

/-! ## Arrays -/

namespace NdrArray

def writeAll (write : α → Writer) : List α → Writer
  | [] => fun _ => []
  | a :: as => (write a).aligned ++ writeAll write as

def write (e : Element E R) (data : List E) : Writer :=
  writeU64 data.length ++ (writeAll e.writeRefs data ++ writeAll e.writeData data)

def resolve (e : Element E R) (debug : Bool) : List R → Reader (List E)
  | [] => pure []
  | refs :: rest => do
    let value ← aligned (e.readData debug refs)
    let resolved ← resolve e debug rest
    return value :: resolved

/-- `Vec::with_capacity` panics if there may not be so many elements. -/
def read (e : Element E R) (debug : Bool) (capacity count : ℕ) : Reader (List E) := do
  let maxCount ← readU64
  require (count ≤ maxCount)
  if capacity < count then fail .panicked
  else
    let data ← many (aligned e.readRefs) count
    resolve e debug data

variable {e : Element E R}

theorem reads_stages (data : List E) (valid : ∀ a ∈ data, e.Valid a) :
    ∃ refs : List R, (∀ p rest, Reads (many (aligned e.readRefs) data.length) p
        (writeAll e.writeRefs data p) refs rest) ∧
      ∀ debug p rest, Reads (resolve e debug refs) p (writeAll e.writeData data p) data rest := by
  induction data with
  | nil => exact ⟨[], fun _ _ => .pure [], fun _ _ _ => .pure []⟩
  | cons a data ih =>
    obtain ⟨first, others⟩ := List.forall_mem_cons.1 valid
    obtain ⟨ref, refs, values⟩ := e.reads a first
    obtain ⟨more, refs', values'⟩ := ih others
    refine ⟨ref :: more, fun p rest => ?_, fun debug p rest => ?_⟩
    · exact .bind (reads_aligned (fun p => refs p _) p) (.map (refs' _ rest))
    · exact .bind (reads_aligned (fun p => values debug p _) p) (.map (values' debug _ rest))

theorem calm_resolve (refs : List R) : Calm (resolve e false refs) := by
  induction refs with
  | nil => exact .pure []
  | cons first _ ih => exact .bind (.aligned (e.calmData first)) fun _ => .bind ih fun _ => .pure _

/-- Reading without assertions comes to an id that the writer does not use. -/
def Foreign (e : Element E R) : List R → Cursor → Prop
  | [], _ => False
  | first :: rest, c => After (align 8) (fun _ => e.Foreign first) c ∨
      After (aligned (e.readData false first)) (fun _ => Foreign e rest) c

theorem asserts_resolve : ∀ refs : List R,
    Asserts (resolve e true refs) (resolve e false refs) (Foreign e refs)
  | [] => .refl _
  | first :: rest => (e.asserts first).aligned.bind fun _ => (asserts_resolve rest).map

/-- What the server may send: with a count that the array allows there is room for so many elements,
and a build with assertions meets no foreign id. -/
def Tame (e : Element E R) (debug : Bool) (capacity count : ℕ) (c : Cursor) : Prop :=
  ∀ maxCount c₁, readU64 c = .ok (maxCount, c₁) → count ≤ maxCount.val → count ≤ capacity ∧
    (debug = true → ¬ After (many (aligned e.readRefs) count) (Foreign e) c₁)

theorem resolve_panics_iff (debug : Bool) (refs : List R) (c : Cursor) :
    resolve e debug refs c = .error .panicked ↔ debug = true ∧ Foreign e refs c := by
  cases debug with
  | false => simpa using calm_resolve refs c
  | true => simpa using (asserts_resolve refs).panics_iff (calm_resolve refs) c

theorem read_tame_iff (debug : Bool) (capacity count : ℕ) (c : Cursor) :
    read e debug capacity count c ≠ .error .panicked ↔ Tame e debug capacity count c := by
  rw [← not_iff_not, not_not]
  unfold read Tame
  rw [Calm.u64.panics_iff]
  simp only [After, not_forall]
  refine exists_congr fun maxCount => exists_congr fun c₁ => ?_
  rw [exists_prop]
  refine and_congr_right fun _ => ?_
  by_cases few : count ≤ maxCount.val
  case neg =>
    refine iff_of_false ?_ (by simp [few])
    simp [few, require, fail, Bind.bind, StateT.bind, Except.bind]
  have passes (r : Reader (List E)) :
      (require (decide (count ≤ maxCount.val)) >>= fun _ => r) c₁ = r c₁ := by
    rw [decide_eq_true few]
    rfl
  rw [passes]
  by_cases room : count ≤ capacity
  case neg =>
    rw [if_pos (by omega)]
    exact iff_of_true rfl (by simp [few, room])
  rw [if_neg (by omega), (Calm.many (.aligned e.calmRefs) count).panics_iff]
  cases debug <;> simp [After, few, room, resolve_panics_iff]

/-- **Arrays.** An array is read back from wherever it was written, in both builds, and a build
panics on no bytes but those that ask for too many elements or, with debug assertions, use an id of
their own. -/
theorem array_read_back (e : Element E R) (debug : Bool) (capacity count : ℕ) :
    (∀ (data : List E) (p : ℕ) (rest : Octets), data.length = count → count < 2 ^ 64 →
      count ≤ capacity → (∀ a ∈ data, e.Valid a) →
        Reads (read e debug capacity count) p (write e data p) data rest) ∧
    ∀ c, read e debug capacity count c ≠ .error .panicked ↔ Tame e debug capacity count c := by
  refine ⟨?_, read_tame_iff debug capacity count⟩
  rintro data p rest rfl short room valid
  obtain ⟨refs, first, second⟩ := reads_stages data valid
  refine .bind (reads_u64 short _ _) (.require (by simp) ?_)
  rw [if_neg (by omega)]
  exact .bind (first _ _) (second debug _ _)

/-- A share with a name and no remark. -/
theorem share_read_back : Reads (read shareInfo1 true 9 1) 8
    (write shareInfo1 [(some [65, 0], 3, none)] 8) [(some [65, 0], 3, none)] [] :=
  (array_read_back shareInfo1 true 9 1).1 _ 8 [] rfl (by decide) (by decide)
    (by simp [shareInfo1, Element.pair, Element.ptr, Element.direct, word, NdrString])

/-- The server uses another id than the writer, and asks for 2 ^ 63 elements. -/
theorem foreign_id_panics :
    read shareInfo0 true 9 1 ⟨0, encode 8 1 ++ encode 8 7⟩ = .error .panicked ∧
      read shareInfo0 false (2 ^ 63 - 1) (2 ^ 63) ⟨0, encode 8 (2 ^ 63)⟩ = .error .panicked := by
  constructor <;> rfl

end NdrArray

end Rpc.Ndr
