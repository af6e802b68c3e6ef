import TemplateEngine.Proofs.CallGraph.Walk

namespace TemplateEngine

namespace Registry

variable {registry : Registry} {memo : KeyMemo}

/-- An injected value is read by a template or by one behind it. -/
def Reads (registry : Registry) (root : TemplateEntry) (key : String) : Prop :=
  ∃ callee, registry.Reaches root callee ∧ callee.metadata.injectedKeys.contains key = true

/-- An answer that claims no more than there is: keys that are read, or a name that is missed. -/
def Within (registry : Registry) (root : TemplateEntry) : Except ErrorKind NameSet → Prop
  | .ok keys => ∀ key, keys.contains key = true → registry.Reads root key
  | .error e =>
    ∃ callee name, registry.Reaches root callee ∧ registry.Misses callee name ∧ e = .unknownTemplate name

/-- The right answer: all keys that are read if every template called is there, else a name that is missed. -/
def Answers (registry : Registry) (root : TemplateEntry) : Except ErrorKind NameSet → Prop
  | .ok keys => registry.Closed root ∧ ∀ key, keys.contains key = true ↔ registry.Reads root key
  | .error e => registry.Within root (.error e)

/-- Whatever is remembered is an answer. -/
def Recalls (registry : Registry) (memo : KeyMemo) : Prop :=
  ∀ entry known, registry.lookup entry.name = .ok entry → memo.get? entry.name = some known →
    registry.Answers entry (.ok known)

theorem Reaches.reads {root callee : TemplateEntry} (reaches : registry.Reaches root callee) {key : String}
    (reads : registry.Reads callee key) : registry.Reads root key := by
  obtain ⟨reader, further, contains⟩ := reads
  exact ⟨reader, reaches.trans further, contains⟩

theorem Closed.of_reaches {root callee : TemplateEntry} (closed : registry.Closed root)
    (reaches : registry.Reaches root callee) : registry.Closed callee :=
  fun other name further => closed other name (reaches.trans further)

theorem Closed.resolve {entry : TemplateEntry} (closed : registry.Closed entry) {target : CallTarget}
    (member : target ∈ entry.targets registry) :
    ∃ callee, target.resolve registry = .ok callee ∧ registry.Closed callee := by
  cases found : target.resolve registry with
  | error e =>
    obtain ⟨name, misses, -⟩ := TemplateEntry.misses_of_target member found
    exact absurd misses (closed entry name .refl)
  | ok callee =>
    exact ⟨callee, rfl, closed.of_reaches (.single (TemplateEntry.calls_iff.mpr ⟨target, member, found⟩))⟩

/-- A target stands for a template behind another one, or for a name that is missed there. -/
structure Behind (registry : Registry) (root : TemplateEntry) (target : CallTarget) : Prop where
  reaches : ∀ callee, target.resolve registry = .ok callee → registry.Reaches root callee
  misses : ∀ e, target.resolve registry = .error e → registry.Within root (.error e)

theorem Reaches.behind {root entry : TemplateEntry} (reaches : registry.Reaches root entry) {target : CallTarget}
    (member : target ∈ entry.targets registry) : registry.Behind root target where
  reaches _ found := reaches.tail (TemplateEntry.calls_iff.mpr ⟨target, member, found⟩)
  misses _ lacks :=
    have ⟨name, misses, unknown⟩ := TemplateEntry.misses_of_target member lacks
    ⟨entry, name, reaches, misses, unknown⟩

/-- A walk finds nothing but what lies behind its root. -/
theorem Walk.within {root : TemplateEntry} {pending : List CallTarget} {visited keys : NameSet}
    {answer : Except ErrorKind NameSet} (walk : registry.Walk memo pending visited keys answer)
    (coherent : registry.Coherent) (recalls : registry.Recalls memo)
    (pends : ∀ target ∈ pending, target.Sound registry ∧ registry.Behind root target)
    (collected : ∀ key, keys.contains key = true → registry.Reads root key) :
    registry.Within root answer := by
  induction walk with
  | ended => exact collected
  | missing lacks => exact (pends _ List.mem_cons_self).2.misses _ lacks
  | again found old later ih => exact ih (List.forall_mem_cons.mp pends).2 collected
  | @remembered target entry known pending visited keys answer found new recalled later ih =>
    obtain ⟨⟨sound, behind⟩, others⟩ := List.forall_mem_cons.mp pends
    refine ih others fun key contains => ?_
    rcases NameSet.contains_union.mp contains with old | read
    · exact collected key old
    · have answers := recalls entry known (sound entry found) recalled
      exact (behind.reaches entry found).reads ((answers.2 key).mp read)
  | @entered target entry pending visited keys answer found new unknown later ih =>
    obtain ⟨⟨-, behind⟩, others⟩ := List.forall_mem_cons.mp pends
    have reaches := behind.reaches entry found
    refine ih (List.forall_mem_append.mpr ⟨fun target called => ?_, others⟩) fun key contains => ?_
    · exact ⟨TemplateEntry.targets_sound coherent target called, reaches.behind called⟩
    · rcases NameSet.contains_union.mp contains with old | own
      · exact collected key old
      · exact ⟨entry, reaches, own⟩

/-- A visited template is done with, up to pending targets: all keys behind it have been collected at once, or its
own keys have been collected and what it calls is visited or pending. -/
inductive Covered (registry : Registry) (pending : List CallTarget) (visited keys : NameSet)
    (entry : TemplateEntry) : Prop
  | whole (closed : registry.Closed entry)
      (collected : ∀ key, registry.Reads entry key → keys.contains key = true)
  | itself (collected : ∀ key, entry.metadata.injectedKeys.contains key = true → keys.contains key = true)
      (followed : ∀ target ∈ entry.targets registry,
        target ∈ pending ∨ ∃ callee, target.resolve registry = .ok callee ∧ visited.contains callee.name = true)

/-- Every visited template is covered. -/
def Covers (registry : Registry) (pending : List CallTarget) (visited keys : NameSet) : Prop :=
  ∀ entry, registry.lookup entry.name = .ok entry → visited.contains entry.name = true →
    registry.Covered pending visited keys entry

theorem Covered.mono {pending pending' : List CallTarget} {visited visited' keys keys' : NameSet}
    {entry : TemplateEntry} (covered : registry.Covered pending visited keys entry)
    (visits : ∀ name, visited.contains name = true → visited'.contains name = true)
    (grows : ∀ key, keys.contains key = true → keys'.contains key = true)
    (followed : ∀ target ∈ pending,
      target ∈ pending' ∨ ∃ callee, target.resolve registry = .ok callee ∧ visited'.contains callee.name = true) :
    registry.Covered pending' visited' keys' entry := by
  cases covered with
  | whole closed collected => exact .whole closed fun key reads => grows key (collected key reads)
  | itself collected follows =>
    refine .itself (fun key own => grows key (collected key own)) fun target member => ?_
    rcases follows target member with waiting | ⟨callee, found, old⟩
    · exact followed target waiting
    · exact .inr ⟨callee, found, visits callee.name old⟩

/-- A template that is visited now joins the covered ones, which stay covered. -/
theorem Covers.visit {target : CallTarget} {pending pending' : List CallTarget} {visited keys keys' : NameSet}
    {entry : TemplateEntry} (covers : registry.Covers (target :: pending) visited keys)
    (found : target.resolve registry = .ok entry) (registered : registry.lookup entry.name = .ok entry)
    (grows : ∀ key, keys.contains key = true → keys'.contains key = true)
    (waits : ∀ target ∈ pending, target ∈ pending')
    (covered : registry.Covered pending' (visited.add entry.name) keys' entry) :
    registry.Covers pending' (visited.add entry.name) keys' := by
  intro other known visit
  rcases NameSet.contains_add.mp visit with same | old
  · rw [same, registered] at known
    exact Except.ok.inj known ▸ covered
  · refine (covers other known old).mono (fun name old => NameSet.contains_add.mpr (.inr old)) grows ?_
    intro target member
    rcases List.mem_cons.mp member with rfl | waiting
    · exact .inr ⟨entry, found, NameSet.contains_add.mpr (.inl rfl)⟩
    · exact .inl (waits target waiting)

/-- A walk to the end has visited whatever was pending, and then every visited template is covered with nothing
pending any more. -/
theorem Walk.covers {pending : List CallTarget} {visited keys found : NameSet}
    (walk : registry.Walk memo pending visited keys (.ok found)) (coherent : registry.Coherent)
    (recalls : registry.Recalls memo) (sound : ∀ target ∈ pending, target.Sound registry)
    (covers : registry.Covers pending visited keys) :
    ∃ visited', registry.Covers [] visited' found ∧
      (∀ name, visited.contains name = true → visited'.contains name = true) ∧
      ∀ target ∈ pending, ∃ callee, target.resolve registry = .ok callee ∧ visited'.contains callee.name = true := by
  generalize answered : Except.ok found = answer at walk
  induction walk with
  | ended =>
    obtain rfl := Except.ok.inj answered
    exact ⟨_, covers, fun _ old => old, fun target member => by cases member⟩
  | missing => cases answered
  | @again target entry pending visited keys answer resolved old later ih =>
    obtain ⟨visited', covered, grows, followed⟩ := ih (List.forall_mem_cons.mp sound).2
      (fun other known visit => (covers other known visit).mono (fun _ old => old) (fun _ old => old)
        fun target member => by
          rcases List.mem_cons.mp member with rfl | waiting
          · exact .inr ⟨entry, resolved, old⟩
          · exact .inl waiting)
      answered
    exact ⟨visited', covered, grows, List.forall_mem_cons.mpr ⟨⟨entry, resolved, grows _ old⟩, followed⟩⟩
  | @remembered target entry known pending visited keys answer resolved new recalled later ih =>
    obtain ⟨first, others⟩ := List.forall_mem_cons.mp sound
    have registered := first entry resolved
    have answers := recalls entry known registered recalled
    obtain ⟨visited', covered, grows, followed⟩ := ih others
      (covers.visit resolved registered (fun key old => NameSet.contains_union.mpr (.inl old)) (fun _ waits => waits)
        (.whole answers.1 fun key reads => NameSet.contains_union.mpr (.inr ((answers.2 key).mpr reads))))
      answered
    refine ⟨visited', covered, fun name old => grows name (NameSet.contains_add.mpr (.inr old)),
      List.forall_mem_cons.mpr ⟨⟨entry, resolved, grows _ (NameSet.contains_add.mpr (.inl rfl))⟩, followed⟩⟩
  | @entered target entry pending visited keys answer resolved new unknown later ih =>
    obtain ⟨first, others⟩ := List.forall_mem_cons.mp sound
    have registered := first entry resolved
    obtain ⟨visited', covered, grows, followed⟩ := ih
      (List.forall_mem_append.mpr ⟨TemplateEntry.targets_sound coherent, others⟩)
      (covers.visit resolved registered (fun key old => NameSet.contains_union.mpr (.inl old))
        (fun _ waits => List.mem_append_right _ waits)
        (.itself (fun key own => NameSet.contains_union.mpr (.inr own))
          fun target called => .inl (List.mem_append_left _ called)))
      answered
    refine ⟨visited', covered, fun name old => grows name (NameSet.contains_add.mpr (.inr old)),
      List.forall_mem_cons.mpr ⟨⟨entry, resolved, grows _ (NameSet.contains_add.mpr (.inl rfl))⟩,
        fun target waiting => followed target (List.mem_append_right _ waiting)⟩⟩

/-- When nothing is pending, everything behind a visited template exists and its keys have been collected. -/
theorem Covers.reaches {visited keys : NameSet} (coherent : registry.Coherent)
    (covers : registry.Covers [] visited keys) {entry callee : TemplateEntry}
    (reaches : registry.Reaches entry callee) (registered : registry.lookup entry.name = .ok entry)
    (visit : visited.contains entry.name = true) :
    (∀ name, ¬ registry.Misses callee name) ∧
      ∀ key, callee.metadata.injectedKeys.contains key = true → keys.contains key = true := by
  induction reaches using Relation.ReflTransGen.head_induction_on with
  | refl =>
    cases covers callee registered visit with
    | whole closed collected =>
      exact ⟨fun name => closed callee name .refl, fun key own => collected key ⟨callee, .refl, own⟩⟩
    | itself collected followed =>
      refine ⟨fun name misses => ?_, collected⟩
      obtain ⟨target, member, lacks⟩ := TemplateEntry.target_of_misses misses
      rcases followed target member with waiting | ⟨other, found, -⟩
      · cases waiting
      · rw [lacks] at found
        cases found
  | @head entry next calls further ih =>
    cases covers entry registered visit with
    | whole closed collected =>
      have reaches : registry.Reaches entry callee := .head calls further
      exact ⟨fun name => closed callee name reaches, fun key own => collected key ⟨callee, reaches, own⟩⟩
    | itself collected followed =>
      obtain ⟨target, member, found⟩ := TemplateEntry.calls_iff.mp calls
      rcases followed target member with waiting | ⟨other, found', old⟩
      · cases waiting
      · rw [found] at found'
        obtain rfl := Except.ok.inj found'
        exact ih (TemplateEntry.targets_sound coherent target member next found) old

theorem Walk.answers {root : TemplateEntry} {answer : Except ErrorKind NameSet}
    (walk : registry.Walk memo [.implementation root] SortedMap.empty SortedMap.empty answer)
    (coherent : registry.Coherent) (recalls : registry.Recalls memo)
    (registered : registry.lookup root.name = .ok root) : registry.Answers root answer := by
  have itself (entry : TemplateEntry) (found : (CallTarget.implementation root).resolve registry = .ok entry) :
      entry = root := (Except.ok.inj found).symm
  have sound := CallTarget.sound_implementation registered
  have behind : registry.Behind root (.implementation root) :=
    ⟨fun callee found => itself callee found ▸ .refl, fun e lacks => by cases lacks⟩
  have within := walk.within coherent recalls (List.forall_mem_singleton.mpr ⟨sound, behind⟩)
    (fun key nothing => by cases nothing)
  cases answer with
  | error e => exact within
  | ok keys =>
    obtain ⟨visited, covers, -, followed⟩ := walk.covers coherent recalls
      (List.forall_mem_singleton.mpr sound) (fun entry _ nothing => by cases nothing)
    obtain ⟨entry, found, visit⟩ := followed _ List.mem_cons_self
    obtain rfl := itself entry found
    refine ⟨fun callee name reaches => (covers.reaches coherent reaches registered visit).1 name,
      fun key => ⟨within key, ?_⟩⟩
    rintro ⟨callee, reaches, own⟩
    exact (covers.reaches coherent reaches registered visit).2 key own

/-- Of the right answers there is one only when it is a set of keys. -/
theorem Answers.eq_ok {root : TemplateEntry} {keys : NameSet} {answer : Except ErrorKind NameSet}
    (answers : registry.Answers root (.ok keys)) (answers' : registry.Answers root answer) : answer = .ok keys := by
  cases answer with
  | ok keys' => exact congrArg Except.ok (NameSet.ext fun key => (answers'.2 key).trans (answers.2 key).symm)
  | error e =>
    obtain ⟨callee, name, reaches, misses, -⟩ := answers'
    exact absurd misses (answers.1 callee name reaches)

end Registry

end TemplateEngine
