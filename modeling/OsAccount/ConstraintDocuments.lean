import OsAccount.AccountConstraints

namespace OsAccount.ConstraintDocuments

open JsonUtils ConstraintStore ConstraintUpdate ConstraintRemoval AccountConstraints AccountList

theorem keys_set {α : Type} (key : String) (value : α) (l : List (String × α)) :
    Fields.keys (Fields.set key value l) = if key ∈ Fields.keys l then Fields.keys l else Fields.keys l ++ [key] := by
  induction l with
  | nil => simp [Fields.set, Fields.keys]
  | cons p l ih =>
      obtain ⟨k, a⟩ := p
      by_cases hk : k = key
      · simp [Fields.set, hk]
      · simp only [Fields.set, hk, if_false, Fields.keys_cons, ih, List.mem_cons, Ne.symm hk, false_or]
        split
        · rfl
        · rfl

theorem keys_delete {α : Type} (key : String) (l : List (String × α)) :
    Fields.keys (Fields.delete key l) = (Fields.keys l).erase key := by
  induction l with
  | nil => rfl
  | cons p l ih =>
      obtain ⟨k, a⟩ := p
      by_cases hk : k = key
      · simp [Fields.delete, hk]
      · simp [Fields.delete, hk, ih]

section first

variable {constraintType : String} {reserved : List String} {j : Json}

theorem listFirst_setItem (h : ListFirst constraintType reserved j) (key : String) (value : Json) :
    ListFirst constraintType reserved (setItem j key value) := by
  obtain ⟨pre, post, hkeys, hpre⟩ := h
  cases j with
  | obj l =>
      simp only [setItem]
      split
      · exact ⟨pre, post, hkeys, hpre⟩
      · rw [fields] at hkeys
        refine ⟨pre, if key ∈ Fields.keys l then post else post ++ [key], ?_, hpre⟩
        rw [fields, keys_set]
        split
        · exact hkeys
        · rw [hkeys, List.append_assoc, List.cons_append]
  | _ => exact ⟨pre, post, hkeys, hpre⟩

theorem listFirst_addVector (h : ListFirst constraintType reserved j) (key : String) (vec : List String) :
    ListFirst constraintType reserved (addVectorStringToJson j key vec) := listFirst_setItem h key _

theorem listFirst_deleteItem (h : ListFirst constraintType reserved j) {key : String} (hne : key ≠ constraintType) :
    ListFirst constraintType reserved (deleteItemFromJson j key) := by
  obtain ⟨pre, post, hkeys, hpre⟩ := h
  cases j with
  | obj l =>
      simp only [deleteItemFromJson]
      split
      · exact ⟨pre, post, hkeys, hpre⟩
      · rw [fields] at hkeys
        by_cases hmem : key ∈ pre
        · refine ⟨pre.erase key, post, ?_, fun k hk => hpre k (List.mem_of_mem_erase hk)⟩
          rw [fields, keys_delete, hkeys, List.erase_append_left _ hmem]
        · refine ⟨pre, post.erase key, ?_, hpre⟩
          rw [fields, keys_delete, hkeys, List.erase_append_right _ hmem, List.erase_cons_tail]
          simpa using hne.symm
  | _ => exact ⟨pre, post, hkeys, hpre⟩

theorem listFirst_foldl_deleteItem (h : ListFirst constraintType reserved j) {keys : List String}
    (hkeys : constraintType ∉ keys) : ListFirst constraintType reserved (keys.foldl deleteItemFromJson j) := by
  induction keys generalizing j with
  | nil => exact h
  | cons key keys ih =>
      rw [List.mem_cons, not_or] at hkeys
      exact ih (listFirst_deleteItem h (Ne.symm hkeys.1)) hkeys.2

structure LoopFirst (constraintType : String) (reserved : List String) (l : Loop) : Prop where
  first : ListFirst constraintType reserved l.json
  waiting : constraintType ∉ l.waitForErase

variable {l : Loop} {c : String}

theorem LoopFirst.addConstraint (h : LoopFirst constraintType reserved l) (c idStr : String) :
    LoopFirst constraintType reserved (addConstraint constraintType c idStr l) := by
  unfold ConstraintStore.addConstraint
  split
  · simp only
    split
    · exact h
    · exact ⟨listFirst_addVector h.first _ _, h.waiting⟩
  · exact ⟨listFirst_addVector (listFirst_addVector h.first _ _) _ _, h.waiting⟩

theorem LoopFirst.removeConstraints (h : LoopFirst constraintType reserved l) (hc : c ≠ constraintType)
    (idStr : String) :
    LoopFirst constraintType reserved (removeConstraintsFromJsonOperate constraintType c idStr l) := by
  unfold removeConstraintsFromJsonOperate
  simp only
  split
  · refine ⟨listFirst_addVector h.first _ _, fun hw => ?_⟩
    rcases List.mem_append.mp hw with hw | hw
    · exact h.waiting hw
    · exact hc (List.mem_singleton.mp hw).symm
  · exact ⟨listFirst_addVector h.first _ _, h.waiting⟩

theorem listFirst_dataOperate {body : Loop → String → Loop} {constraints : List String}
    (hbody : ∀ l, LoopFirst constraintType reserved l → ∀ c ∈ constraints, LoopFirst constraintType reserved (body l c))
    (h : ListFirst constraintType reserved j) :
    ListFirst constraintType reserved (dataOperate constraintType body constraints j) := by
  have hloop : ∀ (cs : List String) (l : Loop), (∀ c ∈ cs, c ∈ constraints) →
    LoopFirst constraintType reserved l →
      LoopFirst constraintType reserved (cs.foldl body l) := by
    intro cs
    induction cs with
    | nil => exact fun l _ hl => hl
    | cons c cs ih =>
        intro l hcs hl
        exact ih _ (fun c' hc' => hcs c' (List.mem_cons_of_mem c hc'))
          (hbody l hl c (hcs c List.mem_cons_self))
  have hend := hloop constraints ⟨j, [], getVectorStringFromJson j constraintType⟩ (fun _ hc => hc)
    ⟨h, List.not_mem_nil⟩
  exact listFirst_foldl_deleteItem hend.first hend.waiting

end first

theorem listFirst_global {j : Json} (h : ListFirst allGlobalConstraints globalReserved j) {constraints : List String}
    (hcs : ∀ c ∈ constraints, c ∉ globalReserved) (idStr : String) (isAdd : Bool) :
    ListFirst allGlobalConstraints globalReserved (globalConstraintsDataOperate idStr constraints isAdd j) := by
  refine listFirst_dataOperate (fun l hl c hc => ?_) h
  have hne : c ≠ allGlobalConstraints := fun he => hcs c hc (by simp [globalReserved, he])
  split
  · exact hl.addConstraint c idStr
  · split
    · exact hl.removeConstraints hne idStr
    · exact hl

theorem listFirst_specific {j : Json} (h : ListFirst allSpecificConstraints specificReserved j)
    {constraints : List String} (hcs : ∀ c ∈ constraints, c ∉ specificReserved) (idStr : String) (isAdd : Bool) :
    ListFirst allSpecificConstraints specificReserved (specificConstraintsDataOperate idStr constraints isAdd j) := by
  refine listFirst_dataOperate (fun l hl c hc => ?_) h
  have hne : c ≠ allSpecificConstraints := fun he => hcs c hc (by simp [specificReserved, he])
  split
  · exact hl.addConstraint c idStr
  · split
    · exact hl.removeConstraints hne idStr
    · exact hl

section walk

variable {constraintType idStr : String} {reserved done : List String} {j : Json} {w : Walk}

structure RemovingKept (constraintType : String) (reserved : List String) (idStr : String) (j : Json)
    (done : List String) (w : Walk) : Prop where
  removing : Removing constraintType reserved idStr j done w
  list : w.loop.constraintsList.Sublist (getVectorStringFromJson j constraintType)
  first : ListFirst constraintType reserved w.loop.json

theorem removeSource_kept (h : RemovingKept constraintType reserved idStr j done w) (key : String) :
    (removeSource constraintType key idStr w).loop.constraintsList.Sublist
      (getVectorStringFromJson j constraintType) ∧
    ListFirst constraintType reserved (removeSource constraintType key idStr w).loop.json := by
  unfold removeSource removeConstraintsFromJsonOperate
  simp only
  split
  · exact ⟨List.filter_sublist.trans h.list, listFirst_addVector h.first _ _⟩
  · exact ⟨h.list, listFirst_addVector h.first _ _⟩

theorem removeGlobalSource_cases {w' : Walk} {key : String}
    (h : Removing allGlobalConstraints globalReserved idStr j done w) (hw : removeGlobalSource idStr w key = some w') :
    w' = w ∨ w' = removeSource allGlobalConstraints key idStr w := by
  unfold removeGlobalSource at hw
  rw [Option.ite_none_left_eq_some] at hw
  obtain ⟨-, hw⟩ := hw
  split at hw
  · obtain rfl := Option.some.inj hw
    rw [h.list]
    exact .inr rfl
  · exact .inl (Option.some.inj hw).symm

theorem removeSpecificSource_cases {w' : Walk} {key : String}
    (hw : removeSpecificSource idStr w key = some w') :
    w' = w ∨ w' = removeSource allSpecificConstraints key idStr w := by
  unfold removeSpecificSource at hw
  rw [Option.ite_none_left_eq_some] at hw
  obtain ⟨-, hw⟩ := hw
  split at hw
  · exact .inl (Option.some.inj hw).symm
  · exact .inr (Option.some.inj hw).symm

structure RemovedKept (constraintType : String) (reserved : List String) (j j' : Json) : Prop where
  wellFormed : WellFormed constraintType reserved j'
  first : ListFirst constraintType reserved j'
  imposed {c source : String} : Imposed constraintType j' c source → Imposed constraintType j c source

theorem walkFields_kept {body : Walk → String → Option Walk} (hall : constraintType ∈ reserved)
    (hstep : ∀ {w w' : Walk} {done : List String} {key : String}, Removing constraintType reserved idStr j done w →
      key ∉ done → body w key = some w' → Removing constraintType reserved idStr j (key :: done) w')
    (hcases : ∀ {w w' : Walk} {done : List String} {key : String}, Removing constraintType reserved idStr j done w →
      body w key = some w' → w' = w ∨ w' = removeSource constraintType key idStr w)
    (hj : WellFormed constraintType reserved j) (hfirst : ListFirst constraintType reserved j) {j' : Json}
    (h : walkFields body j (getVectorStringFromJson j constraintType) = some j') :
    RemovedKept constraintType reserved j j' := by
  have hlisted := listed_of_wellFormed hj
  have hremoved := walkFields_sourceRemoved hall hstep hlisted h
  obtain ⟨w, hw, rfl⟩ := Option.map_eq_some_iff.mp h
  have hbody : ∀ {w w' : Walk} {done : List String} {key : String},
      RemovingKept constraintType reserved idStr j done w → key ∉ done → body w key = some w' →
      RemovingKept constraintType reserved idStr j (key :: done) w' := by
    intro w w' done key hw hkey hbody
    have hnext := hstep hw.removing hkey hbody
    rcases hcases hw.removing hbody with rfl | rfl
    · exact ⟨hnext, hw.list, hw.first⟩
    · obtain ⟨hlist, hfirst⟩ := removeSource_kept hw key
      exact ⟨hnext, hlist, hfirst⟩
  have hdone := Machine.foldlM_invariant hbody hlisted.keys_nodup
    ⟨removing_start hj.record, List.Sublist.refl _, hfirst⟩ (fun _ _ hk => by cases hk) hw
  rw [List.append_nil] at hdone
  have hwaiting : constraintType ∉ w.loop.waitForErase := fun hc => (hdone.removing.waiting.mp hc).2.1 hall
  have hlist : getVectorStringFromJson
    (w.loop.waitForErase.foldl deleteItemFromJson w.loop.json) constraintType =
      w.loop.constraintsList := by
    rw [getVectorStringFromJson, (foldl_deleteItem hdone.removing.record _).2, if_neg hwaiting]
    exact hdone.removing.list
  have hwf : WellFormed constraintType reserved
      (w.loop.waitForErase.foldl deleteItemFromJson w.loop.json) := by
    refine ⟨hremoved.listed.record, ?_, fun hc => ?_, hremoved.listed.listed, fun hc => ?_⟩
    · rw [hlist]
      exact hj.nodup.sublist hdone.list
    · rw [hlist] at hc
      exact hj.notReserved (hdone.list.subset hc)
    · rw [hremoved.sources hc]
      exact (hj.sources hc).filter _
  refine ⟨hwf, listFirst_foldl_deleteItem hdone.first hwaiting, fun {c source} himposed => ?_⟩
  obtain ⟨hc, hs⟩ := (imposed_iff hwf c source).mp himposed
  rw [hremoved.sources hc] at hs
  exact (imposed_iff hj c source).mpr ⟨hc, List.mem_of_mem_filter hs⟩

end walk

theorem walkGlobal_kept {idStr : String} {j j' : Json} (hj : WellFormed allGlobalConstraints globalReserved j)
    (hfirst : ListFirst allGlobalConstraints globalReserved j)
    (h : walkFields (removeGlobalSource idStr) j (getVectorStringFromJson j allGlobalConstraints) = some j') :
    RemovedKept allGlobalConstraints globalReserved j j' :=
  walkFields_kept (by simp [globalReserved]) removeGlobalSource_step removeGlobalSource_cases hj hfirst h

theorem walkSpecific_kept {idStr : String} {j j' : Json} (hj : WellFormed allSpecificConstraints specificReserved j)
    (hfirst : ListFirst allSpecificConstraints specificReserved j)
    (h : walkFields (removeSpecificSource idStr) j (getVectorStringFromJson j allSpecificConstraints) = some j') :
    RemovedKept allSpecificConstraints specificReserved j j' :=
  walkFields_kept (by simp [specificReserved]) removeSpecificSource_step
    (fun _ => removeSpecificSource_cases) hj
    hfirst h

structure TargetsKept (j j' : Json) : Prop where
  wellFormed : TargetsWellFormed j'
  first {t : String} {d : Json} : getItemFromJson j' t = some d → ListFirst allSpecificConstraints specificReserved d
  imposed {t c source : String} : ImposedOn j' t c source → ImposedOn j t c source

theorem targetsListed_of_wellFormed {j : Json} (h : TargetsWellFormed j) : TargetsListed j :=
  ⟨h.record, fun hd => listed_of_wellFormed (h.target hd)⟩

theorem removeUserConstraints_kept {idStr target : String} {j j₁ j₂ : Json} (h : TargetsKept j j₁)
    (hcall : removeUserConstraintsFromSpecificObj idStr j₁ target = some j₂) : TargetsKept j j₂ := by
  unfold removeUserConstraintsFromSpecificObj at hcall
  cases hd : getItemFromJson j₁ target with
  | none =>
      simp only [hd, Option.some.injEq] at hcall
      exact hcall ▸ h
  | some d =>
      simp only [hd] at hcall
      split at hcall
      · exact Option.some.inj hcall ▸ h
      · obtain ⟨d₂, hd₂, rfl⟩ := Option.map_eq_some_iff.mp hcall
        have hkept := walkSpecific_kept (h.wellFormed.target hd) (h.first hd) hd₂
        have htarget : target ≠ "" := by
          rintro rfl
          simp [getItemFromJson] at hd
        have hget := getItem_setItem h.wellFormed.record htarget d₂
        have hnew : ∀ {t d'}, getItemFromJson (addObjToJson j₁ target d₂) t = some d' →
            (t = target ∧ d' = d₂) ∨ getItemFromJson j₁ t = some d' := by
          intro t d' hd'
          rw [addObjToJson, hget] at hd'
          split at hd'
          · rename_i he
            exact .inl ⟨he.symm, (Option.some.inj hd').symm⟩
          · exact .inr hd'
        refine ⟨⟨isRecord_setItem h.wellFormed.record _ _, fun {t d'} hd' => ?_⟩, fun {t d'} hd' => ?_,
          fun {t c source} himposed => ?_⟩
        · rcases hnew hd' with ⟨-, rfl⟩ | hd'
          · exact hkept.wellFormed
          · exact h.wellFormed.target hd'
        · rcases hnew hd' with ⟨-, rfl⟩ | hd'
          · exact hkept.first
          · exact h.first hd'
        · obtain ⟨d', hd', himposed⟩ := himposed
          rcases hnew hd' with ⟨rfl, rfl⟩ | hd'
          · exact h.imposed ⟨d, hd, hkept.imposed himposed⟩
          · exact h.imposed ⟨d', hd', himposed⟩

theorem removeAllUsers_kept {idStr : String} {j j' : Json} (h : TargetsKept j j)
    (hcall : removeAllUsersConstraintsInfo idStr j = some j') : TargetsKept j j' := by
  have hnodup := (targetsListed_of_wellFormed h.wellFormed).keys_nodup
  have hnew : ∀ key ∈ Fields.keys (fields j), key ∉ ([] : List String) := fun _ _ => List.not_mem_nil
  exact Machine.foldlM_invariant (I := fun _ j' => TargetsKept j j')
    (fun hkept _ hcall => removeUserConstraints_kept hkept hcall) hnodup h hnew hcall

def IsLocalId (text : String) : Prop := ∃ id : Int, Decimal.Fits 32 id ∧ text = toString id

/-- What every writer keeps of the three files: lists and keys agree, the lists
stand first, the documents are not empty, and all sources are account ids. -/
structure FilesSound (files : ConstraintFiles) : Prop where
  base : IsRecord files.base
  global : WellFormed allGlobalConstraints globalReserved files.global
  specific : TargetsWellFormed files.specific
  first : ListsFirst files
  owner : isKeyExist files.global deviceOwnerId = true
  start : isKeyExist files.specific (toString startUserId) = true
  enforcer {c source : String} : Imposed allGlobalConstraints files.global c source → IsLocalId source
  targetEnforcer {t c source : String} : ImposedOn files.specific t c source → IsLocalId source

section updates

variable {files : ConstraintFiles} {idStr t : String} {constraints : List String} {isAdd : Bool}

theorem filesSound_base (h : FilesSound files) {base : Json} (hbase : IsRecord base) :
    FilesSound { files with base } :=
  ⟨hbase, h.global, h.specific, ⟨h.first.global, h.first.specific⟩, h.owner, h.start, h.enforcer,
    h.targetEnforcer⟩

theorem isRecord_updateBaseOAConstraints (a : FileAnswer) (idStr : String) (constraints : List String) (isAdd : Bool)
    {file : Json} (h : IsRecord file) : IsRecord (updateBaseOAConstraints a idStr constraints isAdd file).2 := by
  have hsaved : ∀ vec, IsRecord (saved a.write file (addVectorStringToJson file idStr vec)).2 := by
    intro vec
    cases hw : a.write with
    | error e => exact h
    | ok u => exact isRecord_addVector h _ _
  unfold updateBaseOAConstraints
  split
  · exact h
  · split
    · split
      · exact h
      · exact hsaved _
    · exact hsaved _

theorem filesSound_global (h : FilesSound files) {global : Json}
    (hglobal : WellFormed allGlobalConstraints globalReserved global)
    (hfirst : ListFirst allGlobalConstraints globalReserved global) (howner : isKeyExist global deviceOwnerId = true)
    (henforcer : ∀ {c source}, Imposed allGlobalConstraints global c source → IsLocalId source) :
    FilesSound { files with global } :=
  ⟨h.base, hglobal, h.specific, ⟨hfirst, h.first.specific⟩, howner, h.start, henforcer, h.targetEnforcer⟩

theorem filesSound_updateGlobal (h : FilesSound files) (hid : IsLocalId idStr)
    (hcs : ∀ c ∈ constraints, c ∉ globalReserved) (hne : "" ∉ constraints) :
    FilesSound { files with
      global := (updateGlobalOAConstraints ⟨.ok (), .ok ()⟩ idStr constraints isAdd files.global).2 } := by
  obtain ⟨j', hj', hwf, himposed, howner⟩ :=
    (updateOAConstraints_exact idStr constraints isAdd hne).1 files.global h.global hcs
  rw [hj']
  obtain rfl : j' = globalConstraintsDataOperate idStr constraints isAdd files.global :=
    (congrArg Prod.snd hj').symm
  refine filesSound_global h hwf (listFirst_global h.first.global hcs idStr isAdd) ?_ fun {c source} hsource => ?_
  · rw [isKeyExist, howner]
    exact h.owner
  · rw [himposed] at hsource
    cases isAdd with
    | true =>
        rcases hsource with hsource | ⟨-, rfl⟩
        · exact h.enforcer hsource
        · exact hid
    | false => exact h.enforcer hsource.1

theorem filesSound_deviceOwner (h : FilesSound files) (owner : Int) :
    FilesSound { files with global := addIntToJson files.global deviceOwnerId owner } := by
  have hne : deviceOwnerId ≠ "" := by decide
  have hget := getItem_setItem h.global.record hne (.num owner)
  have hvector : ∀ {key}, key ≠ deviceOwnerId →
    getVectorStringFromJson (addIntToJson files.global deviceOwnerId owner)
      key = getVectorStringFromJson files.global key := by
    intro key hkey
    rw [getVectorStringFromJson, addIntToJson, hget, if_neg (Ne.symm hkey), getVectorStringFromJson]
  have hlist := hvector (show allGlobalConstraints ≠ deviceOwnerId by decide)
  have hother : ∀ {c}, c ∉ globalReserved → c ≠ deviceOwnerId := by
    rintro c hc rfl
    exact hc (by simp [globalReserved])
  have hwf : WellFormed allGlobalConstraints globalReserved
      (addIntToJson files.global deviceOwnerId owner) := by
    refine ⟨isRecord_setItem h.global.record _ _, ?_, fun hc => ?_, fun hc => ?_, fun hc => ?_⟩
    · rw [hlist]
      exact h.global.nodup
    · rw [hlist] at hc
      exact h.global.notReserved hc
    · rw [hlist, hvector (hother hc)]
      exact h.global.listed hc
    · rw [hvector (hother hc)]
      exact h.global.sources hc
  refine filesSound_global h hwf (listFirst_setItem h.first.global _ _) ?_ fun {c source} hsource => ?_
  · rw [isKeyExist, addIntToJson, hget, if_pos rfl]
    rfl
  · obtain ⟨hc, hs⟩ := (imposed_iff hwf c source).mp hsource
    rw [hvector (hother hc)] at hs
    exact h.enforcer ((imposed_iff h.global c source).mpr ⟨hc, hs⟩)

theorem listsFirst_updateSpecific {j : Json} (hj : IsRecord j) (ht : t ≠ "")
    (hcs : ∀ c ∈ constraints, c ∉ specificReserved)
    (hfirst : ∀ {t d}, getItemFromJson j t = some d → ListFirst allSpecificConstraints specificReserved d) {t' : String}
    {d : Json} (hd : getItemFromJson (updateSpecificOAConstraints ⟨.ok (), .ok ()⟩ idStr t constraints isAdd j).2 t' =
      some d) : ListFirst allSpecificConstraints specificReserved d := by
  have htarget : ∀ {j}, IsRecord j → (∀ {t d}, getItemFromJson j t = some d →
      ListFirst allSpecificConstraints specificReserved d) →
      getItemFromJson (specificTargetOperate idStr t constraints isAdd j) t' = some d →
      ListFirst allSpecificConstraints specificReserved d := by
    intro j hj hfirst hd
    cases ho : getItemFromJson j t with
    | none =>
        simp only [specificTargetOperate, ho] at hd
        exact hfirst hd
    | some o =>
        rw [getItem_specificTargetOperate idStr isAdd ht constraints hj ho] at hd
        split at hd
        · obtain rfl := Option.some.inj hd
          exact listFirst_specific (hfirst ho) hcs idStr isAdd
        · exact hfirst hd
  by_cases hkey : isKeyExist j t = true
  · simp only [updateSpecificOAConstraints, hkey, Bool.not_true, Bool.false_and, Bool.false_eq_true, if_false,
      if_true] at hd
    exact htarget hj hfirst hd
  · rw [Bool.not_eq_true] at hkey
    simp only [updateSpecificOAConstraints, hkey, Bool.not_false, Bool.true_and,
      Bool.false_eq_true, if_false] at hd
    split at hd
    · exact hfirst hd
    · -- the new document of the target is empty but for its list
      have hnew : ∀ {t₁ d₁}, getItemFromJson (addObjToJson j t emptyTarget) t₁ = some d₁ →
          ListFirst allSpecificConstraints specificReserved d₁ := by
        intro t₁ d₁ hd₁
        rw [addObjToJson, getItem_setItem hj ht] at hd₁
        split at hd₁
        · obtain rfl := Option.some.inj hd₁
          exact ⟨[], [], rfl, fun _ hk => by cases hk⟩
        · exact hfirst hd₁
      exact htarget (isRecord_setItem hj _ _) hnew hd

theorem isKeyExist_updateSpecific {j : Json} (hj : IsRecord j) (ht : t ≠ "") {t' : String}
    (h : isKeyExist j t' = true) :
    isKeyExist (updateSpecificOAConstraints ⟨.ok (), .ok ()⟩ idStr t constraints isAdd j).2 t' = true := by
  have htarget : ∀ {j}, IsRecord j → isKeyExist j t' = true →
      isKeyExist (specificTargetOperate idStr t constraints isAdd j) t' = true := by
    intro j hj h
    cases ho : getItemFromJson j t with
    | none => simpa only [specificTargetOperate, ho] using h
    | some o =>
        rw [isKeyExist, getItem_specificTargetOperate idStr isAdd ht constraints hj ho]
        split
        · rfl
        · exact h
  by_cases hkey : isKeyExist j t = true
  · simp only [updateSpecificOAConstraints, hkey, Bool.not_true, Bool.false_and, Bool.false_eq_true,
      if_false, if_true]
    exact htarget hj h
  · rw [Bool.not_eq_true] at hkey
    simp only [updateSpecificOAConstraints, hkey, Bool.not_false, Bool.true_and, Bool.false_eq_true, if_false]
    split
    · exact h
    · refine htarget (isRecord_setItem hj _ _) ?_
      rw [isKeyExist, addObjToJson, getItem_setItem hj ht]
      split
      · rfl
      · exact h

theorem filesSound_updateSpecific (h : FilesSound files) (hid : IsLocalId idStr) (ht : t ≠ "")
    (hcs : ∀ c ∈ constraints, c ∉ specificReserved) (hne : "" ∉ constraints) :
    FilesSound { files with
      specific := (updateSpecificOAConstraints ⟨.ok (), .ok ()⟩ idStr t constraints isAdd files.specific).2 } := by
  have hfirst : ∀ {t' d}, getItemFromJson
      (updateSpecificOAConstraints ⟨.ok (), .ok ()⟩ idStr t constraints isAdd files.specific).2 t' = some d →
      ListFirst allSpecificConstraints specificReserved d :=
    listsFirst_updateSpecific h.specific.record ht hcs h.first.specific
  have hstart : isKeyExist (updateSpecificOAConstraints
    ⟨.ok (), .ok ()⟩ idStr t constraints isAdd files.specific).2
      (toString startUserId) = true := isKeyExist_updateSpecific h.specific.record ht h.start
  obtain ⟨j', hj', hwf, himposed, hothers⟩ :=
    (updateOAConstraints_exact idStr constraints isAdd hne).2 t files.specific ht h.specific hcs
  rw [hj'] at hfirst hstart ⊢
  refine ⟨h.base, h.global, hwf, ⟨h.first.global, hfirst⟩, h.owner, hstart, h.enforcer,
    fun {t' c source} hsource => ?_⟩
  by_cases ht' : t' = t
  · subst ht'
    rw [himposed] at hsource
    cases isAdd with
    | true =>
        rcases hsource with hsource | ⟨-, rfl⟩
        · exact h.targetEnforcer hsource
        · exact hid
    | false => exact h.targetEnforcer hsource.1
  · obtain ⟨d, hd, hsource⟩ := hsource
    rw [hothers t' ht'] at hd
    exact h.targetEnforcer ⟨d, hd, hsource⟩

end updates

/-- The removal of an account other than the first one: it returns, and of the
base constraints the entry of the account is gone. -/
theorem filesSound_remove {files : ConstraintFiles} (h : FilesSound files) {id : Int} (hid : id ≠ startUserId) :
    ∃ files', removeOAConstraintsInfo ⟨⟨.ok (), .ok ()⟩, ⟨.ok (), .ok ()⟩, ⟨.ok (), .ok ()⟩⟩ id files =
      some (.ok (), files') ∧ FilesSound files' ∧ files'.base = deleteItemFromJson files.base (toString id) := by
  have hlisted : StoreListed files :=
    ⟨h.base, listed_of_wellFormed h.global, targetsListed_of_wellFormed h.specific⟩
  obtain ⟨hremoves, hreturns⟩ := removeOAConstraintsInfo_removes id files hlisted
  obtain ⟨files', hfiles'⟩ := hreturns h.first
  obtain ⟨-, hremoved⟩ := hremoves _ _ hfiles'
  obtain ⟨hbase, hglobal, hspecific⟩ := removeOAConstraintsInfo_ok hfiles'
  have hbase' := removeOABaseConstraintsInfo_ok hbase
  have hkept := walkGlobal_kept h.global h.first.global (removeOAGlobalConstraintsInfo_ok hglobal)
  have hget : ∀ t, getItemFromJson (if isKeyExist files.specific (toString id) then
      deleteItemFromJson files.specific (toString id) else files.specific) t =
        if toString id = t then none else getItemFromJson files.specific t :=
    fun t => deleteTarget_eq h.specific.record t
  have hdeleted : TargetsKept files.specific (if isKeyExist files.specific (toString id) then
      deleteItemFromJson files.specific (toString id) else files.specific) := by
    have hsub : ∀ {t d}, getItemFromJson (if isKeyExist files.specific (toString id) then
        deleteItemFromJson files.specific (toString id) else files.specific) t = some d →
        getItemFromJson files.specific t = some d := by
      intro t d hd
      rw [hget, Option.ite_none_left_eq_some] at hd
      exact hd.2
    refine ⟨⟨(targetsListed_deleteTarget hlisted.specific _).record, fun hd => h.specific.target (hsub hd)⟩,
      fun hd => h.first.specific (hsub hd), fun ⟨d, hd, himposed⟩ => ⟨d, hsub hd, himposed⟩⟩
  have htargets : TargetsKept _ files'.specific :=
    removeAllUsers_kept ⟨hdeleted.wellFormed, hdeleted.first, fun himposed => himposed⟩
      (removeOASpecificConstraintsInfo_ok hspecific)
  refine ⟨files', hfiles', ⟨?_, hkept.wellFormed, htargets.wellFormed, ⟨hkept.first, htargets.first⟩, ?_, ?_,
    fun himposed => h.enforcer (hkept.imposed himposed),
    fun himposed => h.targetEnforcer (hdeleted.imposed (htargets.imposed himposed))⟩, hbase'⟩
  · rw [hbase']
    exact isRecord_deleteItem h.base _
  · rw [isKeyExist, hremoved.owner]
    exact h.owner
  · have hne : toString startUserId ≠ toString id := fun he => hid (Decimal.toString_injective he).symm
    have hiff := hremoved.otherTarget hne
    have hstart := h.start
    rw [isKeyExist, Option.isSome_iff_ne_none] at hstart ⊢
    exact fun hnone => hstart (hiff.mp hnone)

end OsAccount.ConstraintDocuments
