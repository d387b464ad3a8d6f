import OsAccount.Decimal
import OsAccount.ErrCode
import OsAccount.OrderedMap
import Mathlib.Data.List.Forall2
import Mathlib.Data.List.Nodup
import Mathlib.Data.List.TakeWhile

namespace OsAccount.DisplayConfig

open Decimal Std

inductive XmlNode
  | element (name : String) (content : Option String) (children : List XmlNode)
  | other

def trimConfigValue (value : List Char) : List Char :=
  ((value.dropWhile isSpace).reverse.dropWhile isSpace).reverse

def parseUInt64 (value : String) : Option Nat :=
  let trimmed := trimConfigValue value.toList
  if trimmed = [] then none
  else
    match fromCharsUnsigned 64 trimmed with
    | .ok (n, []) => some n
    | _ => none

structure Attributes where
  physicalId : Option Nat := none
  logicalId : Option Nat := none
  name : String := ""
  userZoneId : Option Nat := none

structure DisplayConfigInfo where
  physicalId : Nat
  logicalId : Nat
  name : String
  userZoneId : Option Nat
  userZone : Nat := 0
deriving DecidableEq

def takeId (id : Option Nat) (value : String) : Except ErrCode (Option Nat) :=
  match id, parseUInt64 value with
  | none, some n => .ok (some n)
  | _, _ => .error .badJsonFormatError

def readChild (info : Attributes) : XmlNode → Except ErrCode Attributes
  | .other => .ok info
  | .element name content _ =>
      let value := content.getD ""
      if name = "physicalId" then (takeId info.physicalId value).map fun physicalId => { info with physicalId }
      else if name = "logicalId" then (takeId info.logicalId value).map fun logicalId => { info with logicalId }
      else if name = "name" then .ok { info with name := value }
      else if name = "userZoneId" then (takeId info.userZoneId value).map fun userZoneId => { info with userZoneId }
      else .ok info

def parseDisplayNodeAttributes (children : List XmlNode) : Except ErrCode DisplayConfigInfo :=
  match children.foldlM readChild {} with
  | .error errCode => .error errCode
  | .ok info =>
      match info.physicalId, info.logicalId with
      | some physicalId, some logicalId => .ok
        { physicalId, logicalId, name := info.name, userZoneId := info.userZoneId }
      | _, _ => .error .badJsonFormatError

structure Collected where
  displays : List DisplayConfigInfo := []
  physicalToLogical : ExtTreeMap Nat Nat := ∅

def displayChildren? : XmlNode → Option (List XmlNode)
  | .element name _ children => if name = "display" then some children else none
  | .other => none

def collectDisplayNodes : List XmlNode → Collected → Except ErrCode Collected
  | [], c => .ok c
  | node :: nodes, c =>
      match displayChildren? node with
      | none => collectDisplayNodes nodes c
      | some children =>
          match parseDisplayNodeAttributes children with
          | .error errCode => .error errCode
          | .ok info =>
              if c.physicalToLogical.contains info.physicalId then .error .badJsonFormatError
              else
                collectDisplayNodes nodes
                  ⟨c.displays ++ [info], c.physicalToLogical.insert info.physicalId info.logicalId⟩

def IsUInt64Text (value : String) (n : Nat) : Prop :=
  ∃ before digits after : List Char, value.toList = before ++ digits ++ after ∧
    (∀ c ∈ before, isSpace c = true) ∧ (∀ c ∈ after, isSpace c = true) ∧
    parseDigits digits = some n ∧ n < 2 ^ 64

theorem all_isDigit_of_parseDigits {l : List Char} {n : Nat} (h : parseDigits l = some n) :
    l ≠ [] ∧ ∀ c ∈ l, c.isDigit = true := by
  rw [parseDigits] at h
  split_ifs at h with hall
  exact ⟨hall.1, List.all_eq_true.mp hall.2⟩

theorem fromCharsUnsigned_eq_ok_nil {bits : Nat} {l : List Char} {n : Nat} :
    fromCharsUnsigned bits l = .ok (n, []) ↔ parseDigits l = some n ∧ n < 2 ^ bits := by
  have hsplit := @List.takeWhile_append_dropWhile _ Char.isDigit l
  rw [fromCharsUnsigned]
  constructor
  · intro h
    split at h
    · cases h
    · rename_i m hm
      split_ifs at h with hfits
      obtain ⟨rfl, hrest⟩ := Prod.mk.inj (Except.ok.inj h)
      rw [hrest, List.append_nil] at hsplit
      rw [hsplit] at hm
      exact ⟨hm, hfits⟩
  · rintro ⟨hparse, hfits⟩
    have hall := (all_isDigit_of_parseDigits hparse).2
    rw [List.takeWhile_eq_self_iff.mpr hall, List.dropWhile_eq_nil_iff.mpr hall, hparse]
    exact if_pos hfits

theorem trimConfigValue_append {before digits after : List Char} (hbefore : ∀ c ∈ before, isSpace c = true)
    (hafter : ∀ c ∈ after, isSpace c = true) (hdigits : ∀ c ∈ digits, isSpace c = false)
    (hne : digits ≠ []) : trimConfigValue (before ++ digits ++ after) = digits := by
  have hlast : ∀ c ∈ after.reverse, isSpace c = true := fun c hc => hafter c (List.mem_reverse.mp hc)
  have hreverse : ∀ c ∈ digits.reverse, isSpace c = false :=
    fun c hc => hdigits c (List.mem_reverse.mp hc)
  have hstop {l : List Char} (hl : ∀ c ∈ l, isSpace c = false) (hlne : l ≠ []) (t : List Char) :
      (l ++ t).dropWhile isSpace = l ++ t := by
    cases l with
    | nil => exact absurd rfl hlne
    | cons c l => exact List.dropWhile_cons_of_neg (by rw [hl c List.mem_cons_self]; exact Bool.false_ne_true)
  rw [trimConfigValue, List.append_assoc, List.dropWhile_append_of_pos hbefore, hstop hdigits hne,
    List.reverse_append,
    List.dropWhile_append_of_pos hlast]
  have hwhole := hstop hreverse (by rwa [ne_eq, List.reverse_eq_nil_iff]) []
  rw [List.append_nil] at hwhole
  rw [hwhole, List.reverse_reverse]

theorem exists_trim (l : List Char) :
    ∃ before after : List Char, l = before ++ trimConfigValue l ++ after ∧
      (∀ c ∈ before, isSpace c = true) ∧ ∀ c ∈ after, isSpace c = true := by
  have hfront := @List.takeWhile_append_dropWhile _ isSpace l
  have hback := @List.takeWhile_append_dropWhile _ isSpace (l.dropWhile isSpace).reverse
  refine ⟨l.takeWhile isSpace,
    ((l.dropWhile isSpace).reverse.takeWhile isSpace).reverse,
    ?_, fun c hc => List.mem_takeWhile_imp hc, fun c hc => List.mem_takeWhile_imp (List.mem_reverse.mp hc)⟩
  rw [trimConfigValue, List.append_assoc, ← List.reverse_append, hback, List.reverse_reverse, hfront]

theorem parseUInt64_eq_some {value : String} {n : Nat} : parseUInt64 value = some n ↔ IsUInt64Text value n := by
  constructor
  · intro h
    obtain ⟨before, after, hsplit, hbefore, hafter⟩ := exists_trim value.toList
    refine ⟨before, _, after, hsplit, hbefore, hafter, ?_⟩
    rw [parseUInt64] at h
    split_ifs at h
    split at h
    · rename_i hread
      cases h
      exact fromCharsUnsigned_eq_ok_nil.mp hread
    · cases h
  · rintro ⟨before, digits, after, hvalue, hbefore, hafter, hparse, hfits⟩
    obtain ⟨hne, hdigit⟩ := all_isDigit_of_parseDigits hparse
    have htrim : trimConfigValue value.toList = digits := by
      rw [hvalue]
      exact trimConfigValue_append hbefore hafter
        (fun c hc => not_isSpace_of_isDigit (hdigit c hc)) hne
    rw [parseUInt64, htrim, if_neg hne, fromCharsUnsigned_eq_ok_nil.mpr ⟨hparse, hfits⟩]

def text? (name : String) : XmlNode → Option String
  | .element childName content _ => if childName = name then some (content.getD "") else none
  | .other => none

def texts (name : String) (children : List XmlNode) : List String := children.filterMap (text? name)

def ReadsId : Option Nat → List String → Option Nat → Prop
  | id, [], result => result = id
  | id, [text], result => id = none ∧ ∃ n, IsUInt64Text text n ∧ result = some n
  | _, _, _ => False

theorem takeId_eq_ok {id result : Option Nat} {text : String} :
    takeId id text = .ok result ↔ id = none ∧ ∃ n, IsUInt64Text text n ∧ result = some n := by
  cases id with
  | some m => exact iff_of_false nofun fun h => nomatch h.1
  | none =>
      have htake : takeId none text = .ok result ↔ ∃ n, parseUInt64 text = some n ∧ result = some n := by
        unfold takeId
        cases parseUInt64 text with
        | none => exact iff_of_false nofun fun ⟨_, h, _⟩ => nomatch h
        | some n =>
            dsimp only
            rw [Except.ok.injEq]
            exact ⟨fun h => ⟨n, rfl, h.symm⟩, fun ⟨_, hn, h⟩ => by rw [h, hn]⟩
      rw [htake]
      simp only [parseUInt64_eq_some, true_and]

theorem readsId_cons {id result : Option Nat} {text : String} {rest : List String} :
    ReadsId id (text :: rest) result ↔ ∃ next, takeId id text = .ok next ∧ ReadsId next rest result := by
  cases rest with
  | nil =>
      rw [ReadsId, ← takeId_eq_ok]
      exact ⟨fun h => ⟨result, h, rfl⟩, fun ⟨next, h, heq⟩ => by rwa [heq]⟩
  | cons other rest =>
      refine iff_of_false not_false ?_
      rintro ⟨next, htake, hreads⟩
      obtain ⟨-, n, -, rfl⟩ := takeId_eq_ok.mp htake
      cases rest with
      | nil => cases hreads.1
      | cons _ _ => exact hreads

def lastName (name : String) (children : List XmlNode) : String := (texts "name" children).getLast?.getD name

section texts

variable {name childName : String} {content : Option String} {grandchildren children : List XmlNode}

theorem texts_self :
    texts name (.element name content grandchildren :: children) = content.getD "" :: texts name children :=
  List.filterMap_cons_some (if_pos rfl)

theorem texts_of_ne (h : childName ≠ name) :
    texts name (.element childName content grandchildren :: children) = texts name children :=
  List.filterMap_cons_none (if_neg h)

theorem lastName_self (last : String) :
    lastName last (.element "name" content grandchildren :: children) = lastName (content.getD "") children := by
  rw [lastName, texts_self, List.getLast?_cons, Option.getD_some]
  rfl

theorem lastName_of_ne (h : childName ≠ "name") (last : String) :
    lastName last (.element childName content grandchildren :: children) = lastName last children := by
  rw [lastName, texts_of_ne h]
  rfl

end texts

theorem bind_map_eq_ok {α β γ : Type} {e : Except ErrCode α} {f : α → β} {g : β → Except ErrCode γ} {c : γ} :
    (e.map f >>= g) = .ok c ↔ ∃ a, e = .ok a ∧ g (f a) = .ok c := by
  cases e with
  | error errCode => exact iff_of_false nofun fun ⟨_, h, _⟩ => nomatch h
  | ok a => exact ⟨fun h => ⟨a, rfl, h⟩, fun ⟨_, ha, h⟩ => by rwa [← Except.ok.inj ha] at h⟩

theorem foldlM_readChild {children : List XmlNode} {info result : Attributes} :
    children.foldlM readChild info = .ok result ↔
      ReadsId info.physicalId (texts "physicalId" children) result.physicalId ∧
        ReadsId info.logicalId (texts "logicalId" children) result.logicalId ∧
        ReadsId info.userZoneId (texts "userZoneId" children) result.userZoneId ∧
        result.name = lastName info.name children := by
  induction children generalizing info with
  | nil =>
      obtain ⟨p, l, name, z⟩ := info
      obtain ⟨p', l', name', z'⟩ := result
      change Except.ok _ = Except.ok _ ↔ p' = p ∧ l' = l ∧ z' = z ∧ name' = name
      rw [Except.ok.injEq, Attributes.mk.injEq, eq_comm (a := p), eq_comm (a := l),
          eq_comm (a := name), eq_comm (a := z)]
      tauto
  | cons child children ih =>
      rw [List.foldlM_cons]
      cases child with
      | other => exact ih
      | element name content grandchildren =>
          by_cases hphysical : name = "physicalId"
          · subst hphysical
            have hstep : readChild info (.element "physicalId" content grandchildren) =
                (takeId info.physicalId
                    (content.getD "")).map fun physicalId => { info with physicalId } := rfl
            rw [hstep, bind_map_eq_ok, texts_self, texts_of_ne (by decide), texts_of_ne (by decide),
              lastName_of_ne (by decide), readsId_cons]
            simp only [ih, ← exists_and_right, and_assoc]
          by_cases hlogical : name = "logicalId"
          · subst hlogical
            have hstep : readChild info (.element "logicalId" content grandchildren) =
                (takeId info.logicalId (content.getD "")).map fun logicalId => { info with logicalId } := rfl
            rw [hstep, bind_map_eq_ok, texts_self, texts_of_ne (by decide), texts_of_ne (by decide),
              lastName_of_ne (by decide), readsId_cons]
            simp only [ih, ← exists_and_left, ← exists_and_right, and_assoc, and_left_comm]
          by_cases hname : name = "name"
          · subst hname
            have hstep : readChild info (.element "name" content grandchildren) =
                .ok { info with name := content.getD "" } := rfl
            rw [hstep, texts_of_ne (by decide), texts_of_ne (by decide),
              texts_of_ne (by decide), lastName_self]
            exact ih
          by_cases hzone : name = "userZoneId"
          · subst hzone
            have hstep : readChild info (.element "userZoneId" content grandchildren) =
                (takeId info.userZoneId
                    (content.getD "")).map fun userZoneId => { info with userZoneId } := rfl
            rw [hstep, bind_map_eq_ok, texts_self, texts_of_ne (by decide), texts_of_ne (by decide),
              lastName_of_ne (by decide), readsId_cons]
            simp only [ih, ← exists_and_left, ← exists_and_right, and_assoc, and_left_comm]
          · have hstep : readChild info (.element name content grandchildren) = .ok info := by
              rw [readChild, if_neg hphysical, if_neg hlogical, if_neg hname, if_neg hzone]
            rw [hstep, texts_of_ne hphysical, texts_of_ne hlogical, texts_of_ne hzone, lastName_of_ne hname]
            exact ih

/-- A display has one physical and one logical id and at most one id of a zone, all of them well formed. -/
structure Reads (children : List XmlNode) (info : DisplayConfigInfo) : Prop where
  physicalId : ∃ text, texts "physicalId" children = [text] ∧ IsUInt64Text text info.physicalId
  logicalId : ∃ text, texts "logicalId" children = [text] ∧ IsUInt64Text text info.logicalId
  userZoneId : texts "userZoneId" children = [] ∧ info.userZoneId = none ∨
    ∃ text n, texts "userZoneId" children = [text] ∧ IsUInt64Text text n ∧ info.userZoneId = some n
  name : info.name = lastName "" children
  userZone : info.userZone = 0

theorem readsId_none {texts : List String} {result : Option Nat} :
    ReadsId none texts result ↔
      texts = [] ∧ result = none ∨ ∃ text n, texts = [text] ∧ IsUInt64Text text n ∧ result = some n := by
  cases texts with
  | nil => simp [ReadsId]
  | cons text rest =>
      cases rest with
      | nil => simp [ReadsId]
      | cons other rest => simp [ReadsId]

theorem readsId_some {texts : List String} {n : Nat} :
    ReadsId none texts (some n) ↔ ∃ text, texts = [text] ∧ IsUInt64Text text n := by
  rw [readsId_none]
  constructor
  · rintro (⟨-, h⟩ | ⟨text, m, htexts, htext, h⟩)
    · cases h
    · cases h
      exact ⟨text, htexts, htext⟩
  · rintro ⟨text, htexts, htext⟩
    exact .inr ⟨text, n, htexts, htext, rfl⟩

theorem parseDisplayNodeAttributes_eq_ok {children : List XmlNode} {info : DisplayConfigInfo} :
    parseDisplayNodeAttributes children = .ok info ↔ Reads children info := by
  have hread (result : Attributes) := @foldlM_readChild children {} result
  rw [parseDisplayNodeAttributes]
  constructor
  · intro h
    cases hfold : children.foldlM readChild {} with
    | error errCode =>
        rw [hfold] at h
        cases h
    | ok result =>
        obtain ⟨physicalId, logicalId, name, userZoneId⟩ := result
        obtain ⟨hphysical, hlogical, hzone, hname⟩ := (hread _).mp hfold
        rw [hfold] at h
        cases physicalId with
        | none => cases h
        | some physicalId =>
            cases logicalId with
            | none => cases h
            | some logicalId =>
                cases h
                exact ⟨readsId_some.mp hphysical, readsId_some.mp hlogical, readsId_none.mp hzone, hname, rfl⟩
  · intro h
    obtain ⟨physicalId, logicalId, name, userZoneId, userZone⟩ := info
    have hfold := (hread ⟨some physicalId, some logicalId, name, userZoneId⟩).mpr
      ⟨readsId_some.mpr h.physicalId, readsId_some.mpr h.logicalId, readsId_none.mpr h.userZoneId, h.name⟩
    have hzone : userZone = 0 := h.userZone
    rw [hfold, hzone]

/-- The displays that are collected have different physical ids, by which their logical ids are found. -/
theorem collectDisplayNodes_eq_ok {nodes : List XmlNode} {c result : Collected} :
    collectDisplayNodes nodes c = .ok result ↔
      ∃ infos, List.Forall₂ Reads (nodes.filterMap displayChildren?) infos ∧
        (infos.map DisplayConfigInfo.physicalId).Nodup ∧ (∀ info ∈ infos, info.physicalId ∉ c.physicalToLogical) ∧
        result = ⟨c.displays ++ infos,
          infos.foldl (fun map info => map.insert info.physicalId info.logicalId) c.physicalToLogical⟩ := by
  induction nodes generalizing c with
  | nil =>
      rw [collectDisplayNodes, Except.ok.injEq]
      constructor
      · rintro rfl
        exact ⟨[], .nil, List.nodup_nil, nofun, by rw [List.append_nil]; rfl⟩
      · rintro ⟨infos, hreads, -, -, rfl⟩
        cases hreads
        rw [List.append_nil]
        rfl
  | cons node nodes ih =>
      rw [collectDisplayNodes]
      cases hchildren : displayChildren? node with
      | none =>
          rw [List.filterMap_cons_none hchildren]
          exact ih
      | some children =>
          rw [List.filterMap_cons_some hchildren]
          dsimp only
          constructor
          · intro h
            cases hparse : parseDisplayNodeAttributes children with
            | error errCode =>
                rw [hparse] at h
                cases h
            | ok info =>
                rw [hparse] at h
                dsimp only at h
                split_ifs at h with hknown
                obtain ⟨infos, hreads, hnodup, hnew, rfl⟩ := ih.mp h
                obtain ⟨hinfo, hnew⟩ := OrderedMap.forall_notMem_insert_iff.mp hnew
                refine ⟨info :: infos, .cons (parseDisplayNodeAttributes_eq_ok.mp hparse) hreads, ?_, ?_, ?_⟩
                · exact List.nodup_cons.mpr ⟨hinfo, hnodup⟩
                · exact List.forall_mem_cons.mpr
                    ⟨fun hmem => hknown (ExtTreeMap.mem_iff_contains.mp hmem), hnew⟩
                · rw [List.append_assoc]
                  rfl
          · rintro ⟨infos, hreads, hnodup, hnew, rfl⟩
            obtain ⟨info, infos, hread, htail, rfl⟩ := List.forall₂_cons_left_iff.mp hreads
            rw [List.map_cons, List.nodup_cons] at hnodup
            obtain ⟨hinfo, hnew⟩ := List.forall_mem_cons.mp hnew
            rw [parseDisplayNodeAttributes_eq_ok.mpr hread]
            dsimp only
            rw [if_neg fun hknown => hinfo (ExtTreeMap.mem_iff_contains.mpr hknown)]
            refine ih.mpr ⟨infos, htail, hnodup.2,
              OrderedMap.forall_notMem_insert_iff.mpr ⟨hnodup.1, hnew⟩, ?_⟩
            rw [List.append_assoc]
            rfl

theorem getElem?_foldl_insert {infos : List DisplayConfigInfo} {map : ExtTreeMap Nat Nat}
    (hnodup : (infos.map DisplayConfigInfo.physicalId).Nodup) (hnew : ∀ info ∈ infos, info.physicalId ∉ map)
    (z l : Nat) :
    (infos.foldl (fun map info => map.insert info.physicalId info.logicalId) map)[z]? = some l ↔
      (∃ info ∈ infos, info.physicalId = z ∧ info.logicalId = l) ∨ map[z]? = some l := by
  induction infos generalizing map with
  | nil => simp
  | cons info infos ih =>
      rw [List.map_cons, List.nodup_cons] at hnodup
      obtain ⟨hinfo, hnew⟩ := List.forall_mem_cons.mp hnew
      rw [List.foldl_cons, ih hnodup.2 (OrderedMap.forall_notMem_insert_iff.mpr ⟨hnodup.1, hnew⟩),
        OrderedMap.getElem?_insert_eq]
      by_cases hz : info.physicalId = z
      · have hnone : map[z]? = none := by
          rw [← hz]
          exact ExtTreeMap.getElem?_eq_none hinfo
        rw [if_pos hz, hnone, Option.some.injEq]
        simp [hz, or_comm]
      · rw [if_neg hz]
        simp [hz]

end OsAccount.DisplayConfig
