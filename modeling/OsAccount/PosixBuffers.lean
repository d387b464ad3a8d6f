import OsAccount.CStrings

namespace OsAccount.PosixBuffers

open CStrings

/-- The functions of the secure library: they do their work on a range of positive size up to a limit that holds what
is written. -/
structure SecureLibrary where
  memMaxLen : Nat
  memsetS : Memory → Nat → Nat → UInt8 → Nat → Int × Memory
  memcpyS : Memory → Nat → Nat → List UInt8 → Nat → Int × Memory
  memsetS_ok : ∀ (m : Memory) (dest destMax count : Nat) (c : UInt8), 0 < destMax → destMax ≤ memMaxLen →
    count ≤ destMax → memsetS m dest destMax c count = (0, m.fill dest count c)
  memcpyS_ok : ∀ (m : Memory) (dest destMax count : Nat) (src : List UInt8), 0 < destMax → destMax ≤ memMaxLen →
    count ≤ destMax → memcpyS m dest destMax src count = (0, m.write dest (src.take count))

def erange : Int := 34

variable (lib : SecureLibrary) {P : Type}

def copyStringToBuf (m : Memory) (buf pos bufSize : Nat) (str : List UInt8) : Int × Nat × Memory :=
  let writeSize := str.length
  let (ret, m) := lib.memcpyS m (buf + pos) (bufSize - pos) str writeSize
  if ret ≠ 0 then (ret, pos, m) else (0, pos + (writeSize + 1), m)

abbrev FieldOf (P : Type) : Type := (Nat → P → P) × Text

def copyFields (buf bufSize : Nat) : List (FieldOf P) → Nat → Memory × P → Int × (Memory × P)
  | [], _, s => (0, s)
  | (setPointer, str) :: fields, pos, (m, out) =>
      let out := setPointer (buf + pos) out
      let (ret, pos, m) := copyStringToBuf lib m buf pos bufSize str.1
      if ret ≠ 0 then (ret, (m, out)) else copyFields buf bufSize fields pos (m, out)

/-- What the two types share: the check of the size, the clearing of the buffer and the copying; `finish` sets what is
no text. -/
def copyToOutput (needSize : Nat) (fields : List (FieldOf P)) (finish : P → P) (buf size : Nat) (s : Memory × P) :
    Int × (Memory × P) :=
  if needSize > size then (erange, s)
  else
    let (ret, m) := lib.memsetS s.1 buf size 0 size
    if ret ≠ 0 then (ret, (m, s.2))
    else
      let (ret, (m, out)) := copyFields lib buf size fields 0 (m, s.2)
      if ret ≠ 0 then (ret, (m, out)) else (0, (m, finish out))

/-- The `struct passwd` of the caller, with the addresses of its texts. -/
structure Passwd where
  pw_name : Nat
  pw_passwd : Nat
  pw_uid : Nat
  pw_gid : Nat
  pw_gecos : Nat
  pw_dir : Nat
  pw_shell : Nat
deriving DecidableEq

structure CppPasswdType where
  pw_name : Text
  pw_passwd : Text
  pw_uid : Nat
  pw_gid : Nat
  pw_gecos : Text
  pw_dir : Text
  pw_shell : Text

namespace CppPasswdType

variable (pw : CppPasswdType)

def getBufSize : Nat :=
  (pw.pw_name.1.length + 1) + (pw.pw_passwd.1.length + 1) + (pw.pw_gecos.1.length + 1) + (pw.pw_dir.1.length + 1) +
    (pw.pw_shell.1.length + 1)

def fields : List (FieldOf Passwd) :=
  [(fun p out => { out with pw_name := p }, pw.pw_name), (fun p out => { out with pw_passwd := p }, pw.pw_passwd),
    (fun p out => { out with pw_gecos := p }, pw.pw_gecos), (fun p out => { out with pw_dir := p }, pw.pw_dir),
    (fun p out => { out with pw_shell := p }, pw.pw_shell)]

def copyToOutput (buf size : Nat) (s : Memory × Passwd) : Int × (Memory × Passwd) :=
  PosixBuffers.copyToOutput lib pw.getBufSize pw.fields
    (fun out => { out with pw_uid := pw.pw_uid, pw_gid := pw.pw_gid }) buf size s

end CppPasswdType

structure Group where
  gr_name : Nat
  gr_passwd : Nat
  gr_gid : Nat
  gr_mem : Option Nat
deriving DecidableEq

structure CppGroupType where
  gr_name : Text
  gr_passwd : Text
  gr_gid : Nat

namespace CppGroupType

variable (gr : CppGroupType)

def getBufSize : Nat := (gr.gr_name.1.length + 1) + (gr.gr_passwd.1.length + 1)

def fields : List (FieldOf Group) :=
  [(fun p out => { out with gr_name := p }, gr.gr_name), (fun p out => { out with gr_passwd := p }, gr.gr_passwd)]

def copyToOutput (buf size : Nat) (s : Memory × Group) : Int × (Memory × Group) :=
  PosixBuffers.copyToOutput lib gr.getBufSize gr.fields
    (fun out => { out with gr_gid := gr.gr_gid, gr_mem := none }) buf size s

end CppGroupType

def setPointers : Nat → List (FieldOf P) → P → P
  | _, [], out => out
  | p, (setPointer, str) :: fields, out => setPointers (p + str.1.length + 1) fields (setPointer p out)

variable {lib}

theorem copyStringToBuf_eq {m : Memory} {buf pos bufSize : Nat} {str : List UInt8} (hsize : bufSize ≤ lib.memMaxLen)
    (hroom : pos + (str.length + 1) ≤ bufSize) :
    copyStringToBuf lib m buf pos bufSize str = (0, pos + (str.length + 1), m.write (buf + pos) str) := by
  rw [copyStringToBuf, lib.memcpyS_ok m (buf + pos) (bufSize - pos) str.length str (by omega)
    (by omega) (by omega),
    List.take_length]
  rfl

/-- In a cleared buffer with room for all of them, the fields are laid out one after another. -/
theorem copyFields_eq {buf bufSize : Nat} (hsize : bufSize ≤ lib.memMaxLen) (fields : List (FieldOf P)) (pos : Nat)
    (m : Memory) (out : P) (hroom : pos + need (fields.map Prod.snd) ≤ bufSize)
    (hzero : ∀ q, buf + pos ≤ q → q < buf + bufSize → m q = 0) :
    ∃ m', copyFields lib buf bufSize fields pos (m, out) = (0, (m', setPointers (buf + pos) fields out)) ∧
      Layout m' (buf + pos) (buf + bufSize) (placed (buf + pos) (fields.map Prod.snd)) ∧
      ∀ q, q < buf + pos ∨ buf + bufSize ≤ q → m' q = m q := by
  induction fields generalizing pos m out with
  | nil => exact ⟨m, rfl, Layout.nil, fun _ _ => rfl⟩
  | cons field fields ih =>
      obtain ⟨setPointer, str⟩ := field
      rw [List.map_cons, need, List.map_cons, List.sum_cons] at hroom
      change pos + (str.1.length + 1 + need (fields.map Prod.snd)) ≤ bufSize at hroom
      have hnext : buf + (pos + (str.1.length + 1)) = buf + pos + str.1.length + 1 := by omega
      obtain ⟨m', hcopy, hlayout, hframe⟩ :=
        ih (pos + (str.1.length + 1)) (m.write (buf + pos) str.1) (setPointer (buf + pos) out) (by omega)
          fun q hfrom hto => by rw [Memory.write_of_le (by omega), hzero q (by omega) hto]
      rw [hnext] at hcopy hlayout hframe
      have hstring : StringAt m' (buf + pos) str := by
        refine (stringAt_write (hzero _ (by omega) (by omega))).congr fun q _ hto => ?_
        exact hframe q (.inl (by omega))
      refine ⟨m', ?_, hlayout.cons hstring (by omega), fun q hq => ?_⟩
      · rw [copyFields, copyStringToBuf_eq hsize (by omega)]
        exact hcopy
      · rw [hframe q (by omega)]
        rcases hq with hq | hq
        · exact Memory.write_of_lt hq
        · exact Memory.write_of_le (by omega)

theorem copyToOutput_of_lt {needSize size : Nat} (h : size < needSize) (fields : List (FieldOf P)) (finish : P → P)
    (buf : Nat) (s : Memory × P) : copyToOutput lib needSize fields finish buf size s = (erange, s) := if_pos h

theorem copyToOutput_of_le {size : Nat} (hsize : size ≤ lib.memMaxLen) {fields : List (FieldOf P)}
    (hfields : fields ≠ []) (hroom : need (fields.map Prod.snd) ≤ size) (finish : P → P) (buf : Nat) (m : Memory)
    (out : P) :
    ∃ m', copyToOutput lib (need (fields.map Prod.snd)) fields finish buf size (m, out) =
        (0, (m', finish (setPointers buf fields out))) ∧
      Layout m' buf (buf + size) (placed buf (fields.map Prod.snd)) ∧
      ∀ q, q < buf ∨ buf + size ≤ q → m' q = m q := by
  have hpos : 0 < size := by
    cases fields with
    | nil => exact absurd rfl hfields
    | cons field fields =>
        rw [List.map_cons, need, List.map_cons, List.sum_cons] at hroom
        omega
  obtain ⟨m', hcopy, hlayout, hframe⟩ :=
    copyFields_eq hsize fields 0 (m.fill buf size 0) out (by omega) fun q hfrom hto =>
      Memory.fill_of_mem ⟨hfrom, hto⟩
  refine ⟨m', ?_, hlayout, fun q hq => ?_⟩
  · rw [copyToOutput, if_neg (by omega), lib.memsetS_ok m buf size size 0 hpos hsize (Nat.le_refl size)]
    dsimp only
    rw [if_neg (not_not_intro rfl), hcopy]
    rfl
  · rw [hframe q hq, Memory.fill_of_notMem hq]

theorem CppPasswdType.getBufSize_eq (pw : CppPasswdType) : pw.getBufSize = need (pw.fields.map Prod.snd) := by
  simp only [getBufSize, fields, need, List.map_cons, List.map_nil, List.sum_cons, List.sum_nil]
  omega

theorem CppGroupType.getBufSize_eq (gr : CppGroupType) : gr.getBufSize = need (gr.fields.map Prod.snd) := by
  simp only [getBufSize, fields, need, List.map_cons, List.map_nil, List.sum_cons, List.sum_nil]
  omega

theorem copyToOutput_eq_erange_iff {size : Nat} (hsize : size ≤ lib.memMaxLen) {fields : List (FieldOf P)}
    (hfields : fields ≠ []) (finish : P → P) (buf : Nat) (s : Memory × P) :
    copyToOutput lib (need (fields.map Prod.snd)) fields finish buf size s = (erange, s) ↔
      size < need (fields.map Prod.snd) := by
  constructor
  · intro h
    by_contra hlt
    obtain ⟨m', hcopy, -⟩ := copyToOutput_of_le hsize hfields (Nat.le_of_not_lt hlt) finish buf s.1 s.2
    have hcode : (0 : Int) = erange := congrArg Prod.fst (hcopy.symm.trans h)
    exact absurd hcode (by decide)
  · exact fun h => copyToOutput_of_lt h fields finish buf s

/-- With a buffer of up to the limit of the library, a buffer that is too small is refused and left alone with the
result, and in any other the texts are laid out and the pointers lead to them. -/
theorem copyToOutput_layout {size : Nat} (hsize : size ≤ lib.memMaxLen) (buf : Nat) (m : Memory) :
    (∀ (pw : CppPasswdType) (out : Passwd),
      (pw.copyToOutput lib buf size (m, out) = (erange, (m, out)) ↔
        size < need [pw.pw_name, pw.pw_passwd, pw.pw_gecos, pw.pw_dir, pw.pw_shell]) ∧
      (need [pw.pw_name, pw.pw_passwd, pw.pw_gecos, pw.pw_dir, pw.pw_shell] ≤ size →
        ∃ m' out', pw.copyToOutput lib buf size (m, out) = (0, (m', out')) ∧
          Layout m' buf (buf + size) [(out'.pw_name, pw.pw_name), (out'.pw_passwd, pw.pw_passwd),
            (out'.pw_gecos, pw.pw_gecos), (out'.pw_dir, pw.pw_dir), (out'.pw_shell, pw.pw_shell)] ∧
          out'.pw_uid = pw.pw_uid ∧ out'.pw_gid = pw.pw_gid ∧ ∀ q, q < buf ∨ buf + size ≤ q → m' q = m q)) ∧
    ∀ (gr : CppGroupType) (out : Group),
      (gr.copyToOutput lib buf size (m, out) = (erange, (m, out)) ↔ size < need [gr.gr_name, gr.gr_passwd]) ∧
      (need [gr.gr_name, gr.gr_passwd] ≤ size →
        ∃ m' out', gr.copyToOutput lib buf size (m, out) = (0, (m', out')) ∧
          Layout m' buf (buf + size) [(out'.gr_name, gr.gr_name), (out'.gr_passwd, gr.gr_passwd)] ∧
          out'.gr_gid = gr.gr_gid ∧ out'.gr_mem = none ∧ ∀ q, q < buf ∨ buf + size ≤ q → m' q = m q) := by
  refine ⟨fun pw out => ⟨?_, fun hroom => ?_⟩, fun gr out => ⟨?_, fun hroom => ?_⟩⟩
  · rw [CppPasswdType.copyToOutput, pw.getBufSize_eq]
    exact copyToOutput_eq_erange_iff hsize (List.cons_ne_nil _ _) _ buf (m, out)
  · obtain ⟨m', hcopy, hlayout, hframe⟩ :=
      copyToOutput_of_le hsize (List.cons_ne_nil _ _) (show need (pw.fields.map Prod.snd) ≤ size from hroom)
        (fun out => { out with pw_uid := pw.pw_uid, pw_gid := pw.pw_gid }) buf m out
    refine ⟨m', { setPointers buf pw.fields out with pw_uid := pw.pw_uid, pw_gid := pw.pw_gid }, ?_,
      hlayout, rfl, rfl,
      hframe⟩
    rw [CppPasswdType.copyToOutput, pw.getBufSize_eq]
    exact hcopy
  · rw [CppGroupType.copyToOutput, gr.getBufSize_eq]
    exact copyToOutput_eq_erange_iff hsize (List.cons_ne_nil _ _) _ buf (m, out)
  · obtain ⟨m', hcopy, hlayout, hframe⟩ :=
      copyToOutput_of_le hsize (List.cons_ne_nil _ _) (show need (gr.fields.map Prod.snd) ≤ size from hroom)
        (fun out => { out with gr_gid := gr.gr_gid, gr_mem := none }) buf m out
    refine ⟨m', { setPointers buf gr.fields out with gr_gid := gr.gr_gid, gr_mem := none }, ?_,
      hlayout, rfl, rfl, hframe⟩
    rw [CppGroupType.copyToOutput, gr.getBufSize_eq]
    exact hcopy

def boundsChecking : SecureLibrary where
  memMaxLen := 0x7fffffff
  memsetS m dest destMax c count :=
    if destMax = 0 ∨ 0x7fffffff < destMax then (erange, m)
    else if destMax < count then (erange + 128, m.fill dest destMax c)
    else (0, m.fill dest count c)
  memcpyS m dest destMax src count :=
    if destMax = 0 ∨ 0x7fffffff < destMax then (erange, m)
    else if destMax < count then (erange + 128, m.fill dest destMax 0)
    else (0, m.write dest (src.take count))
  memsetS_ok m dest destMax count c hpos hmax hcount := by
    rw [if_neg (by omega), if_neg (by omega)]
  memcpyS_ok m dest destMax count src hpos hmax hcount := by
    rw [if_neg (by omega), if_neg (by omega)]

def wheel : CppGroupType :=
  { gr_name := ⟨[119, 104, 101, 101, 108], by decide⟩, gr_passwd := ⟨[], by decide⟩, gr_gid := 10 }

theorem copyToOutput_layout_wheel :
    ∃ m' out', wheel.copyToOutput boundsChecking 4096 7 (fun _ => 255, ⟨0, 0, 0, none⟩) = (0, (m', out')) ∧
      Layout m' 4096 4103 [(out'.gr_name, wheel.gr_name), (out'.gr_passwd, wheel.gr_passwd)] := by
  obtain ⟨m', out', hcopy, hlayout, -⟩ :=
    ((@copyToOutput_layout boundsChecking 7 (by decide) 4096 fun _ => 255).2 wheel ⟨0, 0, 0, none⟩).2
      (by decide)
  exact ⟨m', out', hcopy, hlayout⟩

/-- A buffer above the limit is refused by the library, though the texts have room in it. -/
theorem not_copyToOutput_large :
    ¬ ∀ (gr : CppGroupType) (size : Nat) (s : Memory × Group), need [gr.gr_name, gr.gr_passwd] ≤ size →
      (gr.copyToOutput boundsChecking 4096 size s).1 = 0 := by
  intro h
  have hlarge := h ⟨⟨[], by decide⟩, ⟨[], by decide⟩, 10⟩ 0x80000000 (fun _ => 0, ⟨0, 0, 0, none⟩) (by decide)
  exact absurd hlarge (by decide)

end OsAccount.PosixBuffers
