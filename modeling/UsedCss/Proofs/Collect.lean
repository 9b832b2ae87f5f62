import Mathlib.Data.List.Forall2
import UsedCss.Collect
import UsedCss.Proofs.ClassSet
/-!
# The classes of several pages

The classes of several pages are those that one page or another has (`collectAll_eq_ok_iff`). So it
does not matter how often a page comes, and in which order, nor how several workers share the pages
(`unite_gathered`).
-/

namespace UsedCss

variable {α β ε : Type} {f : α → Except ε β} {pages : List (List Char)} {options : CollectOptions}
  {s : ClassSet}

theorem mapM_cons_eq_ok_iff {a : α} {as : List α} {bs : List β} :
    (a :: as).mapM f = .ok bs ↔ ∃ b bs', f a = .ok b ∧ as.mapM f = .ok bs' ∧ bs = b :: bs' := by
  rw [List.mapM_cons]
  cases f a with
  | error e => exact ⟨nofun, nofun⟩
  | ok b =>
    cases as.mapM f with
    | error e => exact ⟨nofun, nofun⟩
    | ok bs' =>
      constructor
      · rintro ⟨⟩
        exact ⟨b, bs', rfl, rfl, rfl⟩
      · rintro ⟨_, _, ⟨⟩, ⟨⟩, rfl⟩
        rfl

/-- The results of a list are those of its members. -/
theorem mem_of_mapM {as : List α} {bs : List β} (h : as.mapM f = .ok bs) :
    (∀ a ∈ as, ∃ b, f a = .ok b) ∧ ∀ b, b ∈ bs ↔ ∃ a ∈ as, f a = .ok b := by
  induction as generalizing bs with
  | nil =>
    cases h
    simp
  | cons a as ih =>
    obtain ⟨b, bs', hb, hbs', rfl⟩ := mapM_cons_eq_ok_iff.1 h
    obtain ⟨hall, hmem⟩ := ih hbs'
    refine ⟨List.forall_mem_cons.2 ⟨⟨b, hb⟩, hall⟩, fun c => ?_⟩
    simp only [List.mem_cons, exists_eq_or_imp, hb, hmem, Except.ok.injEq]
    exact or_congr_left eq_comm

theorem exists_mapM {as : List α} (h : ∀ a ∈ as, ∃ b, f a = .ok b) : ∃ bs, as.mapM f = .ok bs := by
  induction as with
  | nil => exact ⟨[], rfl⟩
  | cons a as ih =>
    obtain ⟨⟨b, hb⟩, hall⟩ := List.forall_mem_cons.1 h
    obtain ⟨bs, hbs⟩ := ih hall
    exact ⟨b :: bs, mapM_cons_eq_ok_iff.2 ⟨b, bs, hb, hbs, rfl⟩⟩

theorem ClassSet.contains_foldl_union (sets : List ClassSet) (s : ClassSet) (x : String) :
    (sets.foldl union s).contains x = true ↔
      s.contains x = true ∨ ∃ t ∈ sets, t.contains x = true := by
  induction sets generalizing s with
  | nil => simp
  | cons t sets ih => rw [List.foldl_cons, ih, contains_union, Bool.or_eq_true, or_assoc]; simp

/-- Whether a set holds the classes of pages, all of which can be collected. -/
structure Collects (pages : List (List Char)) (options : CollectOptions) (s : ClassSet) : Prop where
  exists_collect : ∀ page ∈ pages, ∃ t, collect page options = .ok t
  contains_iff : ∀ x, s.contains x = true ↔
    ∃ page ∈ pages, ∃ t, collect page options = .ok t ∧ t.contains x = true

theorem Collects.eq {t : ClassSet} (hs : Collects pages options s) (ht : Collects pages options t) :
    s = t :=
  ClassSet.eq_of_contains fun x => Bool.eq_iff_iff.2 ((hs.contains_iff x).trans (ht.contains_iff x).symm)

/-- Only the members of a list of pages count. -/
theorem Collects.congr {pages' : List (List Char)} (h : Collects pages options s)
    (hpages : ∀ page, page ∈ pages' ↔ page ∈ pages) : Collects pages' options s where
  exists_collect page hpage := h.exists_collect page ((hpages page).1 hpage)
  contains_iff x := by simp only [h.contains_iff, hpages]

theorem collects_of_mapM {sets : List ClassSet} (h : pages.mapM (collect · options) = .ok sets) :
    Collects pages options (sets.foldl ClassSet.union .empty) := by
  obtain ⟨hall, hmem⟩ := mem_of_mapM h
  refine ⟨hall, fun x => ?_⟩
  rw [ClassSet.contains_foldl_union]
  constructor
  · rintro (hempty | ⟨t, ht, hx⟩)
    · cases hempty
    · obtain ⟨page, hpage, hcollect⟩ := (hmem t).1 ht
      exact ⟨page, hpage, t, hcollect, hx⟩
  · rintro ⟨page, hpage, t, hcollect, hx⟩
    exact .inr ⟨t, (hmem t).2 ⟨page, hpage, hcollect⟩, hx⟩

/-- Several pages are collected if each of them is, and then the classes are those of all. -/
theorem collectAll_eq_ok_iff : collectAll pages options = .ok s ↔ Collects pages options s := by
  have hall : ∀ sets, pages.mapM (collect · options) = .ok sets →
      collectAll pages options = .ok (sets.foldl ClassSet.union .empty) := fun sets h => by
    rw [collectAll, h]
    rfl
  constructor
  · intro h
    rcases hsets : pages.mapM (collect · options) with e | sets
    · rw [collectAll, hsets] at h
      cases h
    · cases (hall sets hsets).symm.trans h
      exact collects_of_mapM hsets
  · intro h
    obtain ⟨sets, hsets⟩ := exists_mapM h.exists_collect
    rw [hall sets hsets, (collects_of_mapM hsets).eq h]

theorem exists_collects (h : ∀ page ∈ pages, ∃ t, collect page options = .ok t) :
    ∃ s, Collects pages options s := by
  obtain ⟨sets, hsets⟩ := exists_mapM h
  exact ⟨_, collects_of_mapM hsets⟩

/-- The classes of two lists of pages one after the other are those of the first and those of the second. -/
theorem collects_append {more : List (List Char)} :
    Collects (pages ++ more) options s ↔
      ∃ t u, Collects pages options t ∧ Collects more options u ∧ s = t.union u := by
  have happend : ∀ {t u}, Collects pages options t → Collects more options u →
      Collects (pages ++ more) options (t.union u) := by
    intro t u ht hu
    refine ⟨fun page hpage => ?_, fun x => ?_⟩
    · rcases List.mem_append.1 hpage with hpage | hpage
      · exact ht.exists_collect page hpage
      · exact hu.exists_collect page hpage
    · rw [ClassSet.contains_union, Bool.or_eq_true, ht.contains_iff, hu.contains_iff]
      simp only [List.mem_append, or_and_right, exists_or]
  constructor
  · intro h
    obtain ⟨t, ht⟩ := exists_collects fun page hpage => h.exists_collect page (List.mem_append_left more hpage)
    obtain ⟨u, hu⟩ := exists_collects fun page hpage => h.exists_collect page (List.mem_append_right pages hpage)
    exact ⟨t, u, ht, hu, h.eq (happend ht hu)⟩
  · rintro ⟨t, u, ht, hu, rfl⟩
    exact happend ht hu

/-! ## Pages shared by several workers -/

/-- What a map over a list may give when several workers share it: the results of all members in order, or
the error of one of those that fail, whichever is met first. -/
inductive Gathered (f : α → Except ε β) (as : List α) : Except ε (List β) → Prop
  | ok {bs : List β} : List.Forall₂ (fun a b => f a = .ok b) as bs → Gathered f as (.ok bs)
  | error {a : α} {e : ε} : a ∈ as → f a = .error e → Gathered f as (.error e)

theorem mapM_eq_ok_iff_forall₂ {as : List α} {bs : List β} :
    as.mapM f = .ok bs ↔ List.Forall₂ (fun a b => f a = .ok b) as bs := by
  induction as generalizing bs with
  | nil => simp [pure, Except.pure, eq_comm]
  | cons a as ih =>
    rw [mapM_cons_eq_ok_iff, List.forall₂_cons_left_iff]
    simp only [ih]

/-- An error of a list is that of a member. -/
theorem exists_of_mapM_eq_error {as : List α} {e : ε} (h : as.mapM f = .error e) : ∃ a ∈ as, f a = .error e := by
  induction as with
  | nil => cases h
  | cons a as ih =>
    rw [List.mapM_cons] at h
    cases ha : f a with
    | error e' =>
      rw [ha] at h
      cases h
      exact ⟨a, List.mem_cons_self, ha⟩
    | ok b =>
      rw [ha] at h
      cases has : as.mapM f with
      | error e' =>
        rw [has] at h
        cases h
        obtain ⟨a', hmem, ha'⟩ := ih has
        exact ⟨a', List.mem_cons_of_mem a hmem, ha'⟩
      | ok bs =>
        rw [has] at h
        cases h

/-- One worker who goes through the list in order is one way to share it. -/
theorem gathered_mapM (f : α → Except ε β) (as : List α) : Gathered f as (as.mapM f) := by
  cases h : as.mapM f with
  | ok bs => exact .ok (mapM_eq_ok_iff_forall₂.1 h)
  | error e =>
    obtain ⟨a, hmem, ha⟩ := exists_of_mapM_eq_error h
    exact .error hmem ha

namespace Gathered

variable {gathered : Except CollectError (List ClassSet)} {e : CollectError}

/-- However the pages are shared, they are collected if each of them is, and then the classes are those of
all. -/
theorem unite_eq_ok_iff (h : Gathered (collect · options) pages gathered) :
    unite gathered = .ok s ↔ Collects pages options s := by
  cases h with
  | ok hsets =>
    rw [← collectAll_eq_ok_iff, collectAll, mapM_eq_ok_iff_forall₂.2 hsets]
  | @error page e hpage he =>
    refine iff_of_false nofun fun hs => ?_
    obtain ⟨t, ht⟩ := hs.exists_collect page hpage
    cases he.symm.trans ht

theorem exists_of_unite_eq_error (h : Gathered (collect · options) pages gathered)
    (he : unite gathered = .error e) : ∃ page ∈ pages, collect page options = .error e := by
  cases h with
  | ok _ => cases he
  | error hpage hcollect =>
    cases he
    exact ⟨_, hpage, hcollect⟩

end Gathered

/-- However workers share the pages: all of them are collected if each one is, and then the classes are
those of all; otherwise the error is that of one of them. Two lists one after the other have the classes of
both, and how often a page comes and in which order makes no difference. -/
theorem unite_gathered (options : CollectOptions) (pages : List (List Char)) :
    (∃ gathered, Gathered (collect · options) pages gathered ∧ collectAll pages options = unite gathered) ∧
    ∀ gathered, Gathered (collect · options) pages gathered →
      ((∃ s, unite gathered = .ok s) ↔ ∀ page ∈ pages, ∃ t, collect page options = .ok t) ∧
      (∀ s, unite gathered = .ok s → ∀ x, s.contains x = true ↔
        ∃ page ∈ pages, ∃ t, collect page options = .ok t ∧ t.contains x = true) ∧
      (∀ e, unite gathered = .error e → ∃ page ∈ pages, collect page options = .error e) ∧
      (∀ more others all, Gathered (collect · options) more others →
        Gathered (collect · options) (pages ++ more) all →
        ∀ s, unite all = .ok s ↔ ∃ t u, unite gathered = .ok t ∧ unite others = .ok u ∧ s = t.union u) ∧
      ∀ pages' gathered', (∀ page, page ∈ pages' ↔ page ∈ pages) →
        Gathered (collect · options) pages' gathered' → ∀ s, unite gathered' = .ok s ↔ unite gathered = .ok s := by
  refine ⟨⟨_, gathered_mapM _ pages, rfl⟩, fun gathered h => ⟨?_, ?_, ?_, ?_, ?_⟩⟩
  · simp only [h.unite_eq_ok_iff]
    exact ⟨fun ⟨s, hs⟩ => hs.exists_collect, exists_collects⟩
  · intro s hs
    exact (h.unite_eq_ok_iff.1 hs).contains_iff
  · intro e he
    exact h.exists_of_unite_eq_error he
  · intro more others all hmore hall s
    simp only [hall.unite_eq_ok_iff, h.unite_eq_ok_iff, hmore.unite_eq_ok_iff]
    exact collects_append
  · intro pages' gathered' hpages h' s
    rw [h'.unite_eq_ok_iff, h.unite_eq_ok_iff]
    exact ⟨fun hs => hs.congr fun page => (hpages page).symm, fun hs => hs.congr hpages⟩

/-- A page that comes twice, and one of two errors that is not the first. -/
theorem unite_gathered_twice :
    let options : CollectOptions := { maxBytes := some 16 }
    let page := "<p class='b a'>".toList
    let first := "<p class='too-long'>".toList
    let second := "<p class='too-long-as-well'>".toList
    let set := ClassSet.ofList ["a", "b"]
    Gathered (collect · options) [page, page] (.ok [set, set]) ∧ unite (.ok [set, set]) = .ok set ∧
      Gathered (collect · options) [first, page, second] (.error (.inputTooLarge 28 16)) ∧
      (∃ p ∈ [first, page, second], collect p options = .error (.inputTooLarge 28 16)) ∧
      collectAll [first, page, second] options = .error (.inputTooLarge 20 16) := by
  intro options page first second set
  have hpage : collect page options = .ok set := by decide +kernel
  have hsecond : collect second options = .error (.inputTooLarge 28 16) := by decide +kernel
  have honce : Gathered (collect · options) [page] (.ok [set]) := .ok (.cons hpage .nil)
  have htwice : Gathered (collect · options) [page, page] (.ok [set, set]) :=
    .ok (.cons hpage (.cons hpage .nil))
  have hfails : Gathered (collect · options) [first, page, second] (.error (.inputTooLarge 28 16)) :=
    .error (by simp) hsecond
  obtain ⟨-, -, -, -, hsame⟩ := (unite_gathered options [page]).2 _ honce
  obtain ⟨-, -, herror, -⟩ := (unite_gathered options [first, page, second]).2 _ hfails
  refine ⟨htwice, ?_, hfails, herror _ rfl, by decide +kernel⟩
  exact (hsame [page, page] _ (by simp) htwice set).2 (by decide +kernel)

end UsedCss
