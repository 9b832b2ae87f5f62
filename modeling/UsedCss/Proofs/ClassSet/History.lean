import UsedCss.Proofs.ClassSet
import UsedCss.Proofs.Text.Lines
import UsedCss.Proofs.Text.Order
/-!
# Histories of class sets

A set that is kept for a while is changed again and again. Whatever its history, the names in it are those
added since it was last made anew (`contains_after`), it lists each of them once in ascending order, and two
histories with the same names lead to the same set and the same text. The text of names without newlines can
be read back (`listing_render`).
-/

namespace UsedCss.ClassSet

open UsedCss.Text

variable {s t : ClassSet} {c : Change} {x name : String}

/-! ## Changes -/

/-- A change of a set that someone keeps. -/
inductive Change
  | insert (name : String)
  | union (other : ClassSet)
  | extend (names : List String)
  /-- Another set takes its place, made of the names of a list. -/
  | rebuild (names : List String)
  | clear
deriving DecidableEq

/-- The set after a change. -/
def apply (s : ClassSet) : Change → ClassSet
  | .insert name => (s.add name).1
  | .union other => s.union other
  | .extend names => s.extend names
  | .rebuild names => ofList names
  | .clear => empty

/-- The set after changes that were made one after another, from the set without names. -/
def after (history : List Change) : ClassSet := history.foldl apply empty

/-- The names that a change brings with it. -/
def Change.names : Change → List String
  | .insert name => [name]
  | .union other => other.toList
  | .extend names | .rebuild names => names
  | .clear => []

/-- Whether a change makes the set anew. -/
def Change.resets : Change → Bool
  | .rebuild _ | .clear => true
  | .insert _ | .union _ | .extend _ => false

/-- Whether a name came with some change after which the set has not been made anew. -/
def Added (history : List Change) (x : String) : Prop :=
  ∃ earlier c later, history = earlier ++ c :: later ∧ x ∈ c.names ∧ ∀ l ∈ later, l.resets = false

theorem added_concat {history : List Change} :
    Added (history ++ [c]) x ↔ x ∈ c.names ∨ c.resets = false ∧ Added history x := by
  constructor
  · rintro ⟨earlier, b, later, h, hx, hlater⟩
    rcases List.eq_nil_or_concat later with rfl | ⟨later, l, rfl⟩
    · obtain ⟨-, ⟨⟩⟩ := List.append_inj' h rfl
      exact .inl hx
    · rw [List.concat_eq_append, ← List.cons_append, ← List.append_assoc] at h
      obtain ⟨rfl, hl⟩ := List.append_inj' h rfl
      obtain rfl := (List.cons.inj hl).1
      refine .inr ⟨hlater c (by simp), earlier, b, later, rfl, hx, fun l hl => hlater l (by simp [hl])⟩
  · rintro (hx | ⟨hc, earlier, b, later, rfl, hx, hlater⟩)
    · exact ⟨history, c, [], rfl, hx, by simp⟩
    · refine ⟨earlier, b, later ++ [c], by simp, hx, fun l hl => ?_⟩
      rcases List.mem_append.1 hl with hl | hl
      · exact hlater l hl
      · rwa [List.mem_singleton.1 hl]

theorem mem_toList : x ∈ s.toList ↔ s.contains x = true := List.contains_iff_mem.symm

/-- One change brings its names, and keeps the others unless it makes the set anew. -/
theorem contains_apply (s : ClassSet) (c : Change) (x : String) :
    (s.apply c).contains x = true ↔ x ∈ c.names ∨ c.resets = false ∧ s.contains x = true := by
  cases c with
  | insert name => simp [apply, add, Change.names, Change.resets]
  | union other => simp [apply, Change.names, Change.resets, mem_toList, or_comm]
  | extend names => simp [apply, Change.names, Change.resets]
  | rebuild names => simp [apply, Change.names, Change.resets, contains_ofList]
  | clear => simp [apply, Change.names, Change.resets, empty, contains]

/-- The names in a set are those added since it was last made anew. -/
theorem contains_after (history : List Change) (x : String) :
    (after history).contains x = true ↔ Added history x := by
  induction history using List.reverseRecOn with
  | nil =>
    refine iff_of_false nofun ?_
    rintro ⟨earlier, c, later, h, -⟩
    simp at h
  | append_singleton history c ih =>
    have hafter : after (history ++ [c]) = (after history).apply c := List.foldl_append
    rw [hafter, contains_apply, ih, added_concat]

/-! ## Listings -/

theorem nodup_toList (s : ClassSet) : s.toList.Nodup := s.ascending.imp String.ne_of_lt

theorem count_toList (s : ClassSet) (x : String) : s.toList.count x = if s.contains x then 1 else 0 := by
  rw [s.nodup_toList.count]
  simp only [mem_toList]

theorem add_eq_true_iff : (s.add name).2 = true ↔ s.contains name = false := by
  rw [add, lacksName_iff s.ascending, ← Bool.not_eq_true, ← mem_toList, toList]

/-- The names that a text lists: its lines without their first characters. -/
def listing (text : String) : List String :=
  (pieces (· == '\n') text.toList).dropLast.map fun line => String.ofList line.tail

theorem pieces_render {names : List String} (h : ∀ n ∈ names, '\n' ∉ n.toList) :
    pieces (· == '\n') (String.join (names.map fun n => "." ++ n ++ "\n")).toList =
      names.map (fun n => '.' :: n.toList) ++ [[]] := by
  induction names with
  | nil => rfl
  | cons n names ih =>
    obtain ⟨hn, hnames⟩ := List.forall_mem_cons.1 h
    have hline : ∀ c ∈ '.' :: n.toList, (c == '\n') = false := by
      intro c hc
      rcases List.mem_cons.1 hc with rfl | hc
      · rfl
      · simpa using ne_of_mem_of_not_mem hc hn
    have htext : (String.join ((n :: names).map fun n => "." ++ n ++ "\n")).toList =
        ('.' :: n.toList) ++ '\n' :: (String.join (names.map fun n => "." ++ n ++ "\n")).toList := by
      simp
    rw [htext, pieces_append_cons (x := '\n') rfl, pieces_of_forall hline, ih hnames]
    rfl

/-- The text of a set without newlines in its names lists what the set lists. -/
theorem listing_render (h : ∀ n ∈ s.toList, '\n' ∉ n.toList) : listing s.render = s.toList := by
  rw [listing, render, ← toList, pieces_render h, List.dropLast_concat, List.map_map]
  simp [Function.comp_def]

/-- Whatever changes have been made: the names are those added since the set was last made anew. They are
listed once each, in ascending order of their scalar values and of their bytes, and counted. Inserting one
more tells whether it was absent. Only the names matter for the set, its listing and its text; and without
newlines in its names a set can be read back from its text. -/
theorem after_lists (history : List Change) :
    let s := after history
    (∀ x, s.contains x = true ↔ Added history x) ∧
      (∀ x, s.toList.count x = if s.contains x then 1 else 0) ∧
      s.toList.Pairwise (fun a b => scalars a < scalars b ∧ bytes a < bytes b) ∧
      s.size = s.toList.length ∧
      (∀ name, after (history ++ [.insert name]) = (s.add name).1 ∧
        ((s.add name).2 = true ↔ s.contains name = false)) ∧
      (∀ others, (∀ x, (after others).contains x = s.contains x) →
        after others = s ∧ (after others).toList = s.toList ∧ (after others).render = s.render) ∧
      ((∀ n ∈ s.toList, '\n' ∉ n.toList) → listing s.render = s.toList ∧
        ∀ others, (∀ n ∈ (after others).toList, '\n' ∉ n.toList) →
          (after others).render = s.render → after others = s) := by
  intro s
  refine ⟨contains_after history, s.count_toList, ?_, rfl, fun name => ⟨?_, add_eq_true_iff⟩, ?_, ?_⟩
  · exact s.ascending.imp fun h => ⟨lt_iff_scalars_lt.1 h, lt_iff_bytes_lt.1 h⟩
  · exact List.foldl_append
  · intro others hsame
    have heq : after others = s := eq_of_contains hsame
    rw [heq]
    exact ⟨rfl, rfl, rfl⟩
  · intro hlines
    refine ⟨listing_render hlines, fun others hothers hrender => ?_⟩
    have hlist : (after others).toList = s.toList := by
      rw [← listing_render hothers, hrender, listing_render hlines]
    exact eq_of_contains fun x => congrArg (List.contains · x) hlist

/-- Names of several scripts, one of which is gone with the set that it was in. -/
theorem after_lists_letters :
    let history : List Change :=
      [.insert "gone", .rebuild ["ω", "b"], .extend ["𝒜", "ｚ", "b"], .union (ofList ["a"])]
    let others : List Change :=
      [.extend ["a", "ｚ"], .clear, .insert "𝒜", .extend ["ｚ", "ω", "b", "a"], .insert "b"]
    (after history).toList = ["a", "b", "ω", "ｚ", "𝒜"] ∧ Added history "ω" ∧ ¬ Added history "gone" ∧
      ((after history).add "gone").2 = true ∧ ((after history).add "b").2 = false ∧
      after others = after history ∧ listing (after history).render = (after history).toList := by
  intro history others
  obtain ⟨hadded, -, -, -, hinsert, hsame, hread⟩ := after_lists history
  have hlist : (after history).toList = ["a", "b", "ω", "ｚ", "𝒜"] := by decide +kernel
  have hothers : (after others).toList = ["a", "b", "ω", "ｚ", "𝒜"] := by decide +kernel
  have hgone : (after history).contains "gone" = false := by decide +kernel
  refine ⟨hlist, (hadded "ω").1 (by decide +kernel), fun h => ?_, (hinsert "gone").2.2 hgone, by decide +kernel,
    ?_, ?_⟩
  · have hthere := (hadded "gone").2 h
    rw [hgone] at hthere
    cases hthere
  · exact (hsame others fun x => congrArg (List.contains · x) (hothers.trans hlist.symm)).1
  · refine (hread ?_).1
    rw [hlist]
    decide +kernel

/-- With a newline in a name two sets may have the same text. -/
example : (ofList ["a\n.b"]).render = (ofList ["a", "b"]).render := by decide +kernel

end UsedCss.ClassSet
