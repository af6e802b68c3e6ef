import Mathlib.Data.Nat.Find
import TemplateEngine.Proofs.Delegates.Ambiguity

namespace TemplateEngine

namespace Implementation

variable {α : Type}

/-- How an implementation fits a call of a delegate in a variant, the better the lower. Active packages come before
defaults, and among these the variant before none. -/
def Fits (i : Implementation α) (active : NameSet) (name variant : String) : Nat → Prop
  | 0 => i.Implements name variant ∧ i.IsActive active
  | 1 => variant ≠ "" ∧ i.Implements name "" ∧ i.IsActive active
  | 2 => i.Implements name variant ∧ i.IsDefault
  | 3 => variant ≠ "" ∧ i.Implements name "" ∧ i.IsDefault
  | _ => False

instance (i : Implementation α) (active : NameSet) (name variant : String) : (rank : Nat) →
    Decidable (i.Fits active name variant rank)
  | 0 => inferInstanceAs (Decidable (_ ∧ _))
  | 1 => inferInstanceAs (Decidable (_ ∧ _ ∧ _))
  | 2 => inferInstanceAs (Decidable (_ ∧ _))
  | 3 => inferInstanceAs (Decidable (_ ∧ _ ∧ _))
  | _ + 4 => inferInstanceAs (Decidable False)

end Implementation

namespace DelegateTable

variable {α : Type} {table : DelegateTable α} {active : NameSet} {held : List (Implementation α)}

/-- A call goes to an implementation such that none fits better, or to nothing if none fits. -/
inductive Chosen (held : List (Implementation α)) (active : NameSet) (name variant : String) : Option α → Prop
  | best {i rank} (known : i ∈ held) (fits : i.Fits active name variant rank)
      (first : ∀ j ∈ held, ∀ better < rank, ¬ j.Fits active name variant better) :
      Chosen held active name variant (some i.value)
  | nothing (unfit : ∀ i ∈ held, ∀ rank, ¬ i.Fits active name variant rank) : Chosen held active name variant none

theorem exists_chosen (held : List (Implementation α)) (active : NameSet) (name variant : String) :
    ∃ result, Chosen held active name variant result := by
  by_cases fits : ∃ rank, ∃ i ∈ held, i.Fits active name variant rank
  · obtain ⟨i, known, best⟩ := Nat.find_spec fits
    exact ⟨_, .best known best fun j member better lower => fun better' =>
      Nat.find_min fits lower ⟨j, member, better'⟩⟩
  · exact ⟨none, .nothing fun i known rank fits' => fits ⟨rank, i, known, fits'⟩⟩

/-- The implementation that fits a call at a rank, if the ranks are looked through in the order of addition. -/
def fitting (held : List (Implementation α)) (active : NameSet) (name variant : String) (rank : Nat) : Option α :=
  (held.find? fun i => i.Fits active name variant rank).map Implementation.value

theorem Holds.select?_eq {view : DelegateView α} (holds : view.table.Holds held) (name variant : String) :
    view.select? name variant =
      (fitting held view.active name variant 0).or ((fitting held view.active name variant 1).or
        ((fitting held view.active name variant 2).or (fitting held view.active name variant 3))) := by
  have active (variant : String) : (view.table.group? name variant).bind (fun g => g.active? view.active) =
      (held.find? fun i => i.Implements name variant ∧ i.IsActive view.active).map Implementation.value := by
    have found : (view.table.group? name variant).bind (fun g => g.active? view.active) =
        (view.table.group name variant).active? view.active := by
      rw [group]
      cases view.table.group? name variant <;> rfl
    rw [found, DelegateGroup.active?, ← List.head?_filter, holds.filter_packages, List.head?_map, List.head?_filter,
      Option.map_map]
    rfl
  have default (variant : String) : (view.table.group? name variant).bind DelegateGroup.default =
      (held.find? fun i => i.Implements name variant ∧ i.IsDefault).map Implementation.value := by
    rw [← holds.default, group]
    cases view.table.group? name variant <;> rfl
  have unlessPlain (p : Implementation α → Prop) [DecidablePred p] :
      (held.find? fun i => variant ≠ "" ∧ p i).map Implementation.value =
        if variant = "" then none else (held.find? fun i => p i).map Implementation.value := by
    by_cases plain : variant = "" <;> simp [plain]
  have second : fitting held view.active name variant 1 = if variant = "" then none else
      (held.find? fun i => i.Implements name "" ∧ i.IsActive view.active).map Implementation.value := unlessPlain _
  have fourth : fitting held view.active name variant 3 = if variant = "" then none else
      (held.find? fun i => i.Implements name "" ∧ i.IsDefault).map Implementation.value := unlessPlain _
  rw [second, fourth]
  by_cases plain : variant = ""
  · simp only [DelegateView.select?, active, default, plain, String.isEmpty_iff, if_true]
    rfl
  · simp only [DelegateView.select?, active, default, plain, String.isEmpty_iff, if_false]
    rfl

theorem Holds.default_unique (holds : table.Holds held) {name variant : String} {i j : Implementation α}
    (known : i ∈ held) (known' : j ∈ held) (fits : i.Implements name variant ∧ i.IsDefault)
    (fits' : j.Implements name variant ∧ j.IsDefault) : i = j := by
  have same : i.Implements j.name j.variant := ⟨fits.1.1.trans fits'.1.1.symm, fits.1.2.trans fits'.1.2.symm⟩
  exact List.inj_on_of_nodup_map holds.distinct known known'
    (Implementation.place_eq_iff.mpr ⟨same, fits.2.trans fits'.2.symm⟩)

/-- At each rank at most one implementation fits. -/
theorem Holds.fits_unique (holds : table.Holds held) (calm : ∀ name variant, ¬ Contested held active name variant)
    {name variant : String} {rank : Nat} {i j : Implementation α} (known : i ∈ held) (known' : j ∈ held)
    (fits : i.Fits active name variant rank) (fits' : j.Fits active name variant rank) : i = j := by
  match rank, fits, fits' with
  | 0, fits, fits' => exact holds.active_unique (calm name variant) known known' fits fits'
  | 1, fits, fits' => exact holds.active_unique (calm name "") known known' fits.2 fits'.2
  | 2, fits, fits' => exact holds.default_unique known known' fits fits'
  | 3, fits, fits' => exact holds.default_unique known known' fits.2 fits'.2

theorem fitting_eq_none_iff {name variant : String} {rank : Nat} :
    fitting held active name variant rank = none ↔ ∀ i ∈ held, ¬ i.Fits active name variant rank := by
  simp [fitting]

theorem Holds.fitting_eq_some (holds : table.Holds held) (calm : ∀ name variant, ¬ Contested held active name variant)
    {name variant : String} {rank : Nat} {i : Implementation α} (known : i ∈ held)
    (fits : i.Fits active name variant rank) : fitting held active name variant rank = some i.value := by
  cases found : held.find? fun i => i.Fits active name variant rank with
  | none => exact absurd fits (by simpa using List.find?_eq_none.mp found i known)
  | some j =>
    have same := holds.fits_unique calm (List.mem_of_find?_eq_some found) known
      (by simpa using List.find?_some found) fits
    rw [fitting, found, same]
    rfl

/-- A call goes where the choice among all that the table holds says. -/
theorem Holds.select?_eq_iff {view : DelegateView α} (holds : view.table.Holds held)
    (calm : ∀ name variant, ¬ Contested held view.active name variant) {name variant : String} {result : Option α} :
    view.select? name variant = result ↔ Chosen held view.active name variant result := by
  have select := holds.select?_eq name variant
  have goes {result : Option α} (chosen : Chosen held view.active name variant result) :
      view.select? name variant = result := by
    cases chosen with
    | @best i rank known fits first =>
      have below (better : Nat) (lower : better < rank) : fitting held view.active name variant better = none :=
        fitting_eq_none_iff.mpr fun j member => first j member better lower
      have here := holds.fitting_eq_some calm known fits
      match rank, fits with
      | 0, _ => simp [select, here]
      | 1, _ => simp [select, here, below]
      | 2, _ => simp [select, here, below]
      | 3, _ => simp [select, here, below]
    | nothing unfit =>
      have empty (rank : Nat) : fitting held view.active name variant rank = none :=
        fitting_eq_none_iff.mpr fun i member => unfit i member rank
      simp [select, empty]
  obtain ⟨chosen, choice⟩ := exists_chosen held view.active name variant
  refine ⟨?_, goes⟩
  rintro rfl
  rwa [goes choice]

/-- What calls may go to is a matter of which implementations there are, and not of their order. -/
theorem Chosen.of_mem {others : List (Implementation α)} (same : ∀ i, i ∈ others ↔ i ∈ held) {name variant : String}
    {result : Option α} (chosen : Chosen held active name variant result) :
    Chosen others active name variant result := by
  cases chosen with
  | best known fits first =>
    exact .best ((same _).mpr known) fits fun j member => first j ((same j).mp member)
  | nothing unfit => exact .nothing fun i member => unfit i ((same i).mp member)

/-- One name and variant come before others in the order of their bytes, the name deciding first. -/
def Before (name' variant' name variant : String) : Prop :=
  Text.utf8 name' < Text.utf8 name ∨ name' = name ∧ Text.utf8 variant' < Text.utf8 variant

/-- A table with some implementations, bound to active packages, resolves calls exactly. -/
structure Resolves (table : DelegateTable α) (held : List (Implementation α)) (active : NameSet) : Prop where
  binds : (∃ view, DelegateView.bind table active = .ok view) ↔ ∀ name variant, ¬ Contested held active name variant
  /-- An error is about the first name and variant that are contested. -/
  ambiguous : ∀ e, DelegateView.bind table active = .error e ↔
    ∃ name variant, Contested held active name variant ∧
      (∀ name' variant', Before name' variant' name variant → ¬ Contested held active name' variant') ∧
      e = .conflictingDelegates name variant (activePackages held active name variant)
  unique : ∀ view, DelegateView.bind table active = .ok view → ∀ name variant, ∀ i ∈ held, ∀ j ∈ held,
    i.Implements name variant ∧ i.IsActive active → j.Implements name variant ∧ j.IsActive active → i = j
  select : ∀ view, DelegateView.bind table active = .ok view → ∀ name variant result,
    view.select? name variant = result ↔ Chosen held active name variant result
  /-- Nothing inactive is chosen. -/
  usable : ∀ view, DelegateView.bind table active = .ok view → ∀ name variant a, view.select? name variant = some a →
    ∃ i ∈ held, i.value = a ∧ i.name = name ∧ (i.IsDefault ∨ i.IsActive active)

theorem Chosen.usable {name variant : String} {a : α} (chosen : Chosen held active name variant (some a)) :
    ∃ i ∈ held, i.value = a ∧ i.name = name ∧ (i.IsDefault ∨ i.IsActive active) := by
  cases chosen with
  | @best i rank known fits first =>
    match rank, fits with
    | 0, fits => exact ⟨i, known, rfl, fits.1.1, .inr fits.2⟩
    | 1, fits => exact ⟨i, known, rfl, fits.2.1.1, .inr fits.2.2⟩
    | 2, fits => exact ⟨i, known, rfl, fits.1.1, .inl fits.2⟩
    | 3, fits => exact ⟨i, known, rfl, fits.2.1.1, .inl fits.2.2⟩

theorem Holds.resolves (holds : table.Holds held) (active : NameSet) : table.Resolves held active := by
  have calm {view : DelegateView α} (bound : DelegateView.bind table active = .ok view) :
      view.table.Holds held ∧ view.active = active ∧ ∀ name variant, ¬ Contested held active name variant := by
    obtain ⟨rfl, same, none⟩ := DelegateView.bind_eq_ok bound
    exact ⟨holds, same, holds.conflict?_eq_none_iff.mp none⟩
  have select : ∀ view, DelegateView.bind table active = .ok view → ∀ name variant result,
      view.select? name variant = result ↔ Chosen held active name variant result := by
    intro view bound name variant result
    obtain ⟨holds, rfl, calm⟩ := calm bound
    exact holds.select?_eq_iff calm
  refine ⟨?_, fun e => ?_, ?_, select, ?_⟩
  · rw [DelegateView.exists_bind_iff, holds.conflict?_eq_none_iff]
  · simp only [DelegateView.bind_eq_error_iff, DelegateTable.conflict?_eq_some_iff, holds.rivals_eq,
      holds.contested_iff, Text.compare_eq_lt_iff]
    constructor
    · rintro ⟨name, variant, packages, ⟨several, rfl, first⟩, rfl⟩
      exact ⟨name, variant, holds.contested_iff.mp several, first, rfl⟩
    · rintro ⟨name, variant, contested, first, rfl⟩
      exact ⟨name, variant, _, ⟨holds.contested_iff.mpr contested, rfl, first⟩, rfl⟩
  · intro view bound name variant i known j known' fits fits'
    exact holds.active_unique ((calm bound).2.2 name variant) known known' fits fits'
  · intro view bound name variant a selected
    exact ((select view bound name variant (some a)).mp selected).usable

/-- Two tables are in conflict about the same delegate and variant, or calls go to the same implementations. -/
structure ResolvesAs (table other : DelegateTable α) (active : NameSet) : Prop where
  ambiguous : ∀ name variant packages,
    DelegateView.bind table active = .error (.conflictingDelegates name variant packages) →
      ∃ packages', packages'.Perm packages ∧
        DelegateView.bind other active = .error (.conflictingDelegates name variant packages')
  select : ∀ view, DelegateView.bind table active = .ok view →
    ∃ view', DelegateView.bind other active = .ok view' ∧
      ∀ name variant, view'.select? name variant = view.select? name variant

theorem Resolves.resolvesAs {other : DelegateTable α} {others : List (Implementation α)}
    (resolves : table.Resolves held active) (resolves' : other.Resolves others active) (perm : others.Perm held) :
    table.ResolvesAs other active := by
  have same (i : Implementation α) : i ∈ others ↔ i ∈ held := perm.mem_iff
  refine ⟨fun name variant packages bound => ?_, fun view bound => ?_⟩
  · obtain ⟨_, _, contested, first, named⟩ := (resolves.ambiguous _).mp bound
    obtain ⟨rfl, rfl, rfl⟩ := ErrorKind.conflictingDelegates.inj named
    refine ⟨activePackages others active name variant, (perm.filter _).map _, (resolves'.ambiguous _).mpr ?_⟩
    refine ⟨name, variant, (contested_congr same).mpr contested, fun name' variant' before => ?_, rfl⟩
    exact mt (contested_congr same).mp (first name' variant' before)
  · have calm := resolves.binds.mp ⟨view, bound⟩
    obtain ⟨view', bound'⟩ := resolves'.binds.mpr fun name variant =>
      mt (contested_congr same).mp (calm name variant)
    refine ⟨view', bound', fun name variant => ?_⟩
    have chosen := (resolves.select view bound name variant _).mp rfl
    exact (resolves'.select view' bound' name variant _).mpr (chosen.of_mem same)

/-- Whatever is added to a table, in whichever order and also if some additions are refused, the active packages decide
whether calls are ambiguous and where they go. -/
theorem resolution_exact (additions : List (Implementation α)) (active : NameSet) :
    (addAll additions).1.Resolves (addAll additions).2 active ∧
      ∀ order : List (Implementation α), order.Perm (addAll additions).2 →
        (addAll order).2 = order ∧ (addAll additions).1.ResolvesAs (addAll order).1 active := by
  have holds := addAll_holds additions
  refine ⟨holds.resolves active, fun order perm => ?_⟩
  have accepted : (addAll order).2 = order :=
    addAll_of_distinct ((perm.map Implementation.place).nodup_iff.mpr holds.distinct)
  have resolves := (addAll_holds order).resolves active
  rw [accepted] at resolves
  exact ⟨accepted, (holds.resolves active).resolvesAs resolves perm⟩

/-- A footer for wide pages in one package and for all pages in another; the last addition comes too late. -/
def footers : List (Implementation String) :=
  [⟨"footer", "", "", "plain"⟩, ⟨"footer", "sale", "wide", "banner"⟩, ⟨"footer", "spring", "", "flowers"⟩,
    ⟨"footer", "spring", "", "leaves"⟩]

/-- Wide pages get the banner while there is a sale and other pages the flowers, whichever package was added first. -/
theorem resolution_exact_footers :
    let accepted := (addAll footers).2
    let active : NameSet := .ofNames ["sale", "spring"]
    accepted.map Implementation.value = ["plain", "banner", "flowers"] ∧
      ∃ view view', DelegateView.bind (addAll footers).1 active = .ok view ∧
        DelegateView.bind (addAll accepted.reverse).1 active = .ok view' ∧
        view'.select? "footer" "wide" = view.select? "footer" "wide" ∧
        view.select? "footer" "wide" = some "banner" ∧ view.select? "footer" "narrow" = some "flowers" := by
  intro accepted active
  obtain ⟨-, orders⟩ := resolution_exact footers active
  obtain ⟨-, alike⟩ := orders accepted.reverse accepted.reverse_perm
  have calm : (addAll footers).1.conflict? active = none := by decide +kernel
  obtain ⟨view, bound⟩ := DelegateView.exists_bind_iff.mpr calm
  obtain ⟨view', bound', same⟩ := alike.select view bound
  refine ⟨by decide +kernel, view, view', bound, bound', same "footer" "wide", ?_⟩
  obtain ⟨table, packages, unambiguous⟩ := view
  obtain ⟨rfl, rfl, -⟩ := DelegateView.bind_eq_ok bound
  exact ⟨rfl, rfl⟩

end DelegateTable

end TemplateEngine
