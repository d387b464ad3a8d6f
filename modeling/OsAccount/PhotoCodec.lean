import OsAccount.Base64

namespace OsAccount.PhotoCodec

open Base64

def baseChars : List Char := "ABCDEFGHIJKLMNOPQRSTUVWXYZabcdefghijklmnopqrstuvwxyz0123456789+/".toList

def baseChar (i : Nat) : Char := baseChars.getD i '\x00'

def enGroup (a b c : UInt8) : List Char :=
  [baseChar (a >>> 2).toNat, baseChar (((a <<< 4) ||| (b >>> 4)) &&& 0x3F).toNat,
    baseChar (((b <<< 2) ||| (c >>> 6)) &&& 0x3F).toNat, baseChar (c &&& 0x3F).toNat]

/-- The encoding of what is left when `lineLength` characters stand in the line. -/
def enCodeFrom : Nat → List UInt8 → List Char
  | lineLength, a :: b :: c :: data =>
      enGroup a b c ++
        if lineLength + 4 = 76 then '\r' :: '\n' :: enCodeFrom 0 data else enCodeFrom (lineLength + 4) data
  | _, [a, b] =>
      [baseChar ((a &&& 0xFC) >>> 2).toNat, baseChar (((a &&& 0x03) <<< 4) ||| ((b &&& 0xF0) >>> 4)).toNat,
        baseChar ((b &&& 0x0F) <<< 2).toNat, '=']
  | _, [a] => [baseChar ((a &&& 0xFC) >>> 2).toNat, baseChar ((a &&& 0x03) <<< 4).toNat, '=', '=']
  | _, [] => []

def enCode (data : List UInt8) : List Char := enCodeFrom 0 data

def isBase (c : Char) : Bool := c.isAlphanum || c == '+' || c == '/'

/-- The place of a character in the alphabet; `npos` is 255 as an `unsigned char`. -/
def findBase (c : Char) : UInt8 :=
  match baseChars.idxOf? c with
  | some i => .ofNat i
  | none => 255

def deGroup (c0 c1 c2 c3 : UInt8) : List UInt8 :=
  [(c0 <<< 2) + ((c1 &&& 0x30) >>> 4), ((c1 &&& 0xf) <<< 4) + ((c2 &&& 0x3c) >>> 2), ((c2 &&& 0x3) <<< 6) + c3]

def deCodeTail (chars : List Char) : List UInt8 :=
  if chars = [] then []
  else
    let find (j : Nat) : UInt8 := findBase (chars.getD j '\x00')
    (deGroup (find 0) (find 1) (find 2) (find 3)).take (chars.length - 1)

/-- The decoding of what is left when `chars` have been collected. -/
def deCodeFrom : List Char → List Char → List UInt8
  | chars, [] => deCodeTail chars
  | chars, c :: rest =>
      if c ≠ '=' ∧ isBase c then
        match chars ++ [c] with
        | [c0, c1, c2, c3] =>
            deGroup (findBase c0) (findBase c1) (findBase c2) (findBase c3) ++ deCodeFrom [] rest
        | chars => deCodeFrom chars rest
      else deCodeTail chars

def deCode (baseStr : List Char) : List UInt8 := deCodeFrom [] baseStr

theorem findBase_baseChar {i : Nat} (h : i < 64) :
    baseChar i ≠ '=' ∧ isBase (baseChar i) ∧ (findBase (baseChar i)).toNat = i := by
  have hall : ∀ i < 64, baseChar i ≠ '=' ∧ isBase (baseChar i) ∧ (findBase (baseChar i)).toNat = i := by
    decide +kernel
  exact hall i h

theorem byte_parts (x : UInt8) :
    (x >>> 2).toNat = x.toNat / 4 ∧ (x >>> 4).toNat = x.toNat / 16 ∧ (x >>> 6).toNat = x.toNat / 64 ∧
      (x <<< 2).toNat = x.toNat % 64 * 4 ∧ (x <<< 4).toNat = x.toNat % 16 * 16 ∧ (x <<< 6).toNat = x.toNat % 4 * 64 ∧
      (x &&& 0x03).toNat = x.toNat % 4 ∧ (x &&& 0x0F).toNat = x.toNat % 16 ∧ (x &&& 0x3F).toNat = x.toNat % 64 ∧
      (x &&& 0xFC).toNat = x.toNat / 4 * 4 ∧ (x &&& 0xF0).toNat = x.toNat / 16 * 16 ∧
      (x &&& 0x30).toNat = x.toNat / 16 % 4 * 16 ∧ (x &&& 0x3c).toNat = x.toNat / 4 % 16 * 4 := by
  have hx := x.toNat_lt
  simp only [UInt8.toNat_shiftRight, UInt8.toNat_shiftLeft, UInt8.toNat_and, UInt8.reduceToNat, Nat.reduceMod]
  generalize x.toNat = n at hx
  revert n
  decide +kernel

theorem toNat_or (x y : UInt8) (k : Nat) {n : Nat} (hx : x.toNat = 2 ^ k * n) (hy : y.toNat < 2 ^ k) :
    (x ||| y).toNat = x.toNat + y.toNat := by
  rw [UInt8.toNat_or, hx, Nat.two_pow_add_eq_or_of_lt hy]

theorem toNat_second (a b : UInt8) :
    (((a <<< 4) ||| (b >>> 4)) &&& 0x3F).toNat = a.toNat % 4 * 16 + b.toNat / 16 := by
  have hb := b.toNat_lt
  have hor := toNat_or (a <<< 4) (b >>> 4) 4 (n := a.toNat % 16) (by simp only [byte_parts]; omega)
    (by simp only [byte_parts]; omega)
  simp only [byte_parts] at hor ⊢
  omega

theorem toNat_third (b c : UInt8) :
    (((b <<< 2) ||| (c >>> 6)) &&& 0x3F).toNat = b.toNat % 16 * 4 + c.toNat / 64 := by
  have hc := c.toNat_lt
  have hor := toNat_or (b <<< 2) (c >>> 6) 2 (n := b.toNat % 64) (by simp only [byte_parts]; omega)
    (by simp only [byte_parts]; omega)
  simp only [byte_parts] at hor ⊢
  omega

theorem toNat_lastTwo (a b : UInt8) :
    (((a &&& 0x03) <<< 4) ||| ((b &&& 0xF0) >>> 4)).toNat = a.toNat % 4 * 16 + b.toNat / 16 := by
  have hb := b.toNat_lt
  have hor := toNat_or ((a &&& 0x03) <<< 4) ((b &&& 0xF0) >>> 4) 4 (n := a.toNat % 4)
    (by simp only [byte_parts]; omega)
    (by simp only [byte_parts]; omega)
  simp only [byte_parts] at hor
  omega

theorem tail_parts (x : UInt8) :
    ((x &&& 0xFC) >>> 2).toNat = x.toNat / 4 ∧ ((x &&& 0x03) <<< 4).toNat = x.toNat % 4 * 16 ∧
      ((x &&& 0x0F) <<< 2).toNat = x.toNat % 16 * 4 := by
  simp only [byte_parts]
  omega

variable (a b c : UInt8)

theorem digits_eq :
    digits a b c =
      [a.toNat / 4, a.toNat % 4 * 16 + b.toNat / 16, b.toNat % 16 * 4 + c.toNat / 64, c.toNat % 64] := by
  have ha := a.toNat_lt
  have hb := b.toNat_lt
  have hc := c.toNat_lt
  simp only [digits, List.cons.injEq, and_true]
  omega

theorem enGroup_eq : enGroup a b c = (digits a b c).map baseChar := by
  rw [digits_eq, enGroup, toNat_second, toNat_third]
  simp only [byte_parts, List.map_cons, List.map_nil]

theorem digits_lt {a b c : UInt8} {i : Nat} (h : i ∈ digits a b c) : i < 64 := by
  have ha := a.toNat_lt
  have hb := b.toNat_lt
  have hc := c.toNat_lt
  simp only [digits_eq, List.mem_cons, List.not_mem_nil, or_false] at h
  omega

def fullGroups (data : List UInt8) : List UInt8 := data.take (3 * (data.length / 3))

def lastGroup (data : List UInt8) : List UInt8 := data.drop (3 * (data.length / 3))

variable (data : List UInt8)

theorem groups_cons :
    fullGroups (a :: b :: c :: data) = a :: b :: c :: fullGroups data ∧
      lastGroup (a :: b :: c :: data) = lastGroup data := by
  have hlength : 3 * ((a :: b :: c :: data).length / 3) = 3 * (data.length / 3) + 3 := by
    simp only [List.length_cons]
    omega
  constructor
  · rw [fullGroups, hlength]
    rfl
  · rw [lastGroup, hlength]
    rfl

theorem groups_of_lt (h : data.length < 3) : fullGroups data = [] ∧ lastGroup data = data := by
  rw [fullGroups, lastGroup, Nat.div_eq_of_lt h]
  exact ⟨rfl, rfl⟩

theorem enCodeFrom_eq {lineLength : Nat} (hline : lineLength < 76) (hfour : 4 ∣ lineLength) :
    enCodeFrom lineLength data =
      breakLines 76 ['\r', '\n'] lineLength (encode baseChar '=' (fullGroups data)) ++
        encode baseChar '=' (lastGroup data) := by
  induction data using encode.induct generalizing lineLength with
  | case1 => rfl
  | case2 a =>
      obtain ⟨hfull, hlast⟩ := groups_of_lt [a] (by simp)
      rw [hfull, hlast, enCodeFrom, (tail_parts a).1, (tail_parts a).2.1, encode,
        encode, digits_eq]
      simp [breakLines]
  | case3 a b =>
      obtain ⟨hfull, hlast⟩ := groups_of_lt [a, b] (by simp)
      rw [hfull, hlast, enCodeFrom, (tail_parts a).1, toNat_lastTwo, (tail_parts b).2.2,
        encode, encode,
        digits_eq]
      simp [breakLines]
  | case4 a b c data ih =>
      obtain ⟨hfull, hlast⟩ := groups_cons a b c data
      have hlength : ((digits a b c).map baseChar).length = 4 := rfl
      rw [enCodeFrom, enGroup_eq, hfull, hlast, encode]
      split
      · rename_i heq
        rw [breakLines_append_of_eq (by rw [hlength, heq]) (by simp [digits]),
          ih (by omega) (by omega)]
        simp only [List.append_assoc, List.cons_append, List.nil_append]
      · rename_i hne
        rw [breakLines_append_of_lt (by rw [hlength]; omega), hlength, ih (by omega) (by omega),
          List.append_assoc]

theorem deGroup_first {a c0 c1 : UInt8} (h0 : c0.toNat = a.toNat / 4) (h1 : c1.toNat / 16 = a.toNat % 4) :
    (c0 <<< 2) + ((c1 &&& 0x30) >>> 4) = a := by
  have ha := a.toNat_lt
  rw [← UInt8.toNat_inj, UInt8.toNat_add]
  simp only [byte_parts]
  omega

theorem deGroup_second {b c1 c2 : UInt8} (h1 : c1.toNat % 16 = b.toNat / 16) (h2 : c2.toNat / 4 = b.toNat % 16) :
    ((c1 &&& 0xf) <<< 4) + ((c2 &&& 0x3c) >>> 2) = b := by
  have hb := b.toNat_lt
  rw [← UInt8.toNat_inj, UInt8.toNat_add]
  simp only [byte_parts]
  omega

theorem deGroup_third {c c2 c3 : UInt8} (h2 : c2.toNat % 4 = c.toNat / 64) (h3 : c3.toNat = c.toNat % 64) :
    ((c2 &&& 0x3) <<< 6) + c3 = c := by
  have hc := c.toNat_lt
  rw [← UInt8.toNat_inj, UInt8.toNat_add]
  simp only [byte_parts]
  omega

theorem deCodeFrom_baseChar {i : Nat} (h : i < 64) (chars rest : List Char) :
    deCodeFrom chars (baseChar i :: rest) =
      match chars ++ [baseChar i] with
      | [c0, c1, c2, c3] => deGroup (findBase c0) (findBase c1) (findBase c2) (findBase c3) ++ deCodeFrom [] rest
      | chars => deCodeFrom chars rest := by
  obtain ⟨hpad, hbase, -⟩ := findBase_baseChar h
  rw [deCodeFrom, if_pos ⟨hpad, hbase⟩]

theorem deCodeFrom_of_not_isBase {c : Char} (h : ¬(c ≠ '=' ∧ isBase c)) (chars rest : List Char) :
    deCodeFrom chars (c :: rest) = deCodeTail chars := by
  rw [deCodeFrom, if_neg h]

theorem deCodeFrom_enGroup (rest : List Char) :
    deCodeFrom [] (enGroup a b c ++ rest) = a :: b :: c :: deCodeFrom [] rest := by
  have hlt : ∀ i ∈ digits a b c, i < 64 := fun i => digits_lt
  rw [enGroup_eq]
  rw [digits_eq] at hlt ⊢
  simp only [List.forall_mem_cons] at hlt
  obtain ⟨h0, h1, h2, h3, -⟩ := hlt
  have hfind0 := (findBase_baseChar h0).2.2
  have hfind1 := (findBase_baseChar h1).2.2
  have hfind2 := (findBase_baseChar h2).2.2
  have hfind3 := (findBase_baseChar h3).2.2
  have hb := b.toNat_lt
  have hc := c.toNat_lt
  simp only [List.map_cons, List.map_nil, List.cons_append, List.nil_append]
  rw [deCodeFrom_baseChar h0]
  dsimp only [List.nil_append]
  rw [deCodeFrom_baseChar h1]
  dsimp only [List.cons_append, List.nil_append]
  rw [deCodeFrom_baseChar h2]
  dsimp only [List.cons_append, List.nil_append]
  rw [deCodeFrom_baseChar h3]
  dsimp only [List.cons_append, List.nil_append]
  rw [deGroup, deGroup_first (a := a) hfind0 (by rw [hfind1]; omega),
    deGroup_second (b := b) (by rw [hfind1]; omega) (by rw [hfind2]; omega),
    deGroup_third (c := c) (by rw [hfind2]; omega) hfind3]
  rfl

theorem deCodeFrom_lastOne (a : UInt8) (rest : List Char) :
    deCodeFrom [] (baseChar (a.toNat / 4) :: baseChar (a.toNat % 4 * 16) :: '=' :: rest) = [a] := by
  have ha := a.toNat_lt
  have h0 : a.toNat / 4 < 64 := by omega
  have h1 : a.toNat % 4 * 16 < 64 := by omega
  have hfind0 := (findBase_baseChar h0).2.2
  have hfind1 := (findBase_baseChar h1).2.2
  have hfirst := deGroup_first hfind0 (by rw [hfind1]; omega)
  rw [deCodeFrom_baseChar h0]
  dsimp only [List.nil_append]
  rw [deCodeFrom_baseChar h1]
  dsimp only [List.cons_append, List.nil_append]
  rw [deCodeFrom_of_not_isBase (by decide), deCodeTail, if_neg (List.cons_ne_nil _ _)]
  exact congrArg (fun byte => [byte]) hfirst

theorem deCodeFrom_lastTwo (a b : UInt8) (rest : List Char) :
    deCodeFrom [] (baseChar (a.toNat / 4) :: baseChar (a.toNat % 4 * 16 + b.toNat / 16) ::
      baseChar (b.toNat % 16 * 4) :: '=' :: rest) = [a, b] := by
  have ha := a.toNat_lt
  have hb := b.toNat_lt
  have h0 : a.toNat / 4 < 64 := by omega
  have h1 : a.toNat % 4 * 16 + b.toNat / 16 < 64 := by omega
  have h2 : b.toNat % 16 * 4 < 64 := by omega
  have hfind0 := (findBase_baseChar h0).2.2
  have hfind1 := (findBase_baseChar h1).2.2
  have hfind2 := (findBase_baseChar h2).2.2
  have hfirst := deGroup_first hfind0 (by rw [hfind1]; omega)
  have hsecond := deGroup_second (b := b) (by rw [hfind1]; omega) (by rw [hfind2]; omega)
  rw [deCodeFrom_baseChar h0]
  dsimp only [List.nil_append]
  rw [deCodeFrom_baseChar h1]
  dsimp only [List.cons_append, List.nil_append]
  rw [deCodeFrom_baseChar h2]
  dsimp only [List.cons_append, List.nil_append]
  rw [deCodeFrom_of_not_isBase (by decide), deCodeTail, if_neg (List.cons_ne_nil _ _)]
  exact congrArg₂ (fun first second => [first, second]) hfirst hsecond

theorem deCodeFrom_enCodeFrom {lineLength : Nat} (hline : lineLength < 76)
    (hfour : 4 ∣ lineLength) :
    deCodeFrom [] (enCodeFrom lineLength data) = data.take (3 * ((76 - lineLength) / 4)) := by
  induction data using encode.induct generalizing lineLength with
  | case1 => rw [List.take_nil]; rfl
  | case2 a =>
      rw [enCodeFrom, (tail_parts a).1, (tail_parts a).2.1, deCodeFrom_lastOne, List.take_of_length_le]
      rw [List.length_singleton]
      omega
  | case3 a b =>
      rw [enCodeFrom, (tail_parts a).1, toNat_lastTwo, (tail_parts b).2.2, deCodeFrom_lastTwo,
        List.take_of_length_le]
      rw [List.length_cons, List.length_singleton]
      omega
  | case4 a b c data ih =>
      rw [enCodeFrom, deCodeFrom_enGroup]
      split
      · rename_i heq
        have htake : 3 * ((76 - lineLength) / 4) = 3 := by omega
        rw [deCodeFrom_of_not_isBase (by decide), htake]
        rfl
      · rename_i hne
        have htake : 3 * ((76 - lineLength) / 4) = 3 * ((76 - (lineLength + 4)) / 4) + 3 := by omega
        rw [ih (by omega) (by omega), htake]
        rfl

theorem deCode_enCode : deCode (enCode data) = data.take 57 :=
  deCodeFrom_enCodeFrom data (by decide) (Nat.dvd_zero 4)

theorem encode_groups :
    encode baseChar '=' data =
      encode baseChar '=' (fullGroups data) ++ encode baseChar '=' (lastGroup data) := by
  induction data using encode.induct with
  | case1 => rfl
  | case2 a =>
      obtain ⟨hfull, hlast⟩ := groups_of_lt [a] (by simp)
      rw [hfull, hlast, encode, List.nil_append]
  | case3 a b =>
      obtain ⟨hfull, hlast⟩ := groups_of_lt [a, b] (by simp)
      rw [hfull, hlast, encode, List.nil_append]
  | case4 a b c data ih =>
      obtain ⟨hfull, hlast⟩ := groups_cons a b c data
      rw [hfull, hlast, encode, encode, ih, List.append_assoc]

/-- The text is the standard one with a line break after each 76 characters of the groups that are full, and none after
a padded one. What fits in a line is read back. -/
theorem codec_line (data : List UInt8) :
    encode baseChar '=' data =
        encode baseChar '=' (fullGroups data) ++ encode baseChar '=' (lastGroup data) ∧
      enCode data =
        breakLines 76 ['\r', '\n'] 0 (encode baseChar '=' (fullGroups data)) ++
          encode baseChar '=' (lastGroup data) ∧
      (data.length ≤ 57 → deCode (enCode data) = data) := by
  refine ⟨encode_groups data, enCodeFrom_eq data (by decide) (Nat.dvd_zero 4), fun hlength => ?_⟩
  rw [deCode_enCode, List.take_of_length_le hlength]

theorem codec_line_man : deCode (enCode [77, 97, 110, 33]) = [77, 97, 110, 33] :=
  (codec_line [77, 97, 110, 33]).2.2 (by decide)

/-- The last group of 56 bytes is padded, and no line break follows it although it fills the line. -/
theorem not_codec_padded :
    ¬ ∀ data : List UInt8, deCode (enCode data) = data ∧
      enCode data = breakLines 76 ['\r', '\n'] 0 (encode baseChar '=' data) := by
  intro h
  have hlength := congrArg List.length (h (List.replicate 56 65)).2
  revert hlength
  decide +kernel

end OsAccount.PhotoCodec
