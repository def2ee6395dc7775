import Mathlib.Algebra.BigOperators.Group.List.Lemmas
import Mathlib.Algebra.Ring.Nat
import Mathlib.Data.List.Sort
import Mathlib.Data.String.Basic
import ShotRecorder.Registry

/-!
Registries told by their history. What is registered for a kind depends on nothing but the order in which listeners
joined and left it: those are registered whose last change was that they joined, each of them once, in the order in
which they came to stay (`Registry.Lists`). One more change keeps the registry in agreement with the history
(`Registry.Lists.step`), so that a registry that began empty reflects its whole history (`Registry.reflects`).
-/
namespace ShotRecorder.Registry

/-- A listener joins the listeners of a kind, or leaves them. -/
structure Change (η : Type) where
  kind : String
  listener : η
  joins : Bool
  deriving DecidableEq

variable {η : Type} [DecidableEq η]

def apply (r : Registry η) (change : Change η) : Registry η :=
  if change.joins then r.subscribe change.kind change.listener else r.unsubscribe change.kind change.listener

/-- A registry after changes, one after the other. -/
def applyAll (r : Registry η) (changes : List (Change η)) : Registry η := changes.foldl apply r

/-- Whether a listener joined or left a kind at last, if it ever did either. -/
def last? (changes : List (Change η)) (kind : String) (listener : η) : Option Bool :=
  (changes.filter fun c => c.kind = kind ∧ c.listener = listener).getLast?.map Change.joins

/-- The change with which a listener came to stay: it was not there before, and has not left since. -/
structure Stays (changes : List (Change η)) (kind : String) (listener : η) (n : Nat) : Prop where
  joined : changes[n]? = some ⟨kind,listener,true⟩
  away : last? (changes.take n) kind listener ≠ some true
  kept : ∀ m > n, changes[m]? ≠ some ⟨kind,listener,false⟩

/-- The listeners that a kind has after changes, if nobody was there before. -/
structure Lists (changes : List (Change η)) (kind : String) (listeners : List η) : Prop where
  once : listeners.Nodup
  member : ∀ listener, listener ∈ listeners ↔ last? changes kind listener = some true
  came : ∀ listener ∈ listeners, ∃ n, Stays changes kind listener n
  ordered : listeners.Pairwise fun first second =>
    ∀ m n, Stays changes kind first m → Stays changes kind second n → m < n

/-- All that can be asked of a registry is as the changes say. -/
structure Reflects (changes : List (Change η)) (r : Registry η) : Prop where
  lists : ∀ kind, Lists changes kind (r.listeners kind)
  has : ∀ kind listener, r.has kind listener = true ↔ last? changes kind listener = some true
  /-- Changes to other kinds might as well not have been made. -/
  apart : ∀ kind, r.listeners kind = (empty.applyAll (changes.filter fun c => c.kind = kind)).listeners kind
  sorted : r.kinds.Pairwise (· < ·)
  kinds : ∀ kind, kind ∈ r.kinds ↔ r.listeners kind ≠ []
  counted : ∀ kind, r.count (some kind) = (r.listeners kind).length
  total : r.count none = (r.kinds.map fun kind => (r.listeners kind).length).sum

/-! ### The last change -/

theorem last?_append (earlier later : List (Change η)) (kind : String) (listener : η) :
    last? (earlier ++ later) kind listener = (last? later kind listener).or (last? earlier kind listener) := by
  unfold last?
  rw [List.filter_append,List.getLast?_append]
  cases (later.filter fun c => c.kind = kind ∧ c.listener = listener).getLast? <;> rfl

theorem last?_singleton (c : Change η) (kind : String) (listener : η) :
    last? [c] kind listener = if c.kind = kind ∧ c.listener = listener then some c.joins else none := by
  unfold last?
  by_cases about : c.kind = kind ∧ c.listener = listener <;> simp [about]

theorem last?_snoc (changes : List (Change η)) (c : Change η) (kind : String) (listener : η) :
    last? (changes ++ [c]) kind listener =
      if c.kind = kind ∧ c.listener = listener then some c.joins else last? changes kind listener := by
  rw [last?_append,last?_singleton]
  split <;> rfl

theorem mem_of_last? {changes : List (Change η)} {kind : String} {listener : η} {joins : Bool}
    (last : last? changes kind listener = some joins) : (⟨kind,listener,joins⟩ : Change η) ∈ changes := by
  obtain ⟨c,found,rfl⟩ := Option.map_eq_some_iff.mp last
  obtain ⟨among,about⟩ := List.mem_filter.mp (List.mem_of_getLast? found)
  obtain ⟨rfl,rfl⟩ := of_decide_eq_true about
  exact among

theorem last?_map (kinds : List String) (joins : Bool) (mover : η) (kind : String) (listener : η) :
    last? (kinds.map fun k => ⟨k,mover,joins⟩) kind listener =
      if kind ∈ kinds ∧ mover = listener then some joins else none := by
  induction kinds using List.reverseRecOn with
  | nil => simp [last?]
  | append_singleton kinds k ih =>
    rw [List.map_append,List.map_singleton,last?_snoc,ih]
    grind

/-! ### What changes do to a registry -/

theorem listeners_apply (r : Registry η) (c : Change η) (kind : String) :
    (r.apply c).listeners kind =
      if c.kind = kind then
        if c.joins then
          if c.listener ∈ r.listeners kind then r.listeners kind else r.listeners kind ++ [c.listener]
        else (r.listeners kind).erase c.listener
      else r.listeners kind := by
  unfold apply
  split
  · rw [listeners_subscribe]
    by_cases same : c.kind = kind
    · subst same
      simp only [true_and,↓reduceIte,mem_listeners]
      cases r.has c.kind c.listener <;> rfl
    · simp [same]
  · exact listeners_unsubscribe r c.kind kind c.listener

theorem has_apply (r : Registry η) (c : Change η) (kind : String) (listener : η) :
    (r.apply c).has kind listener =
      if c.kind = kind ∧ c.listener = listener then c.joins else r.has kind listener := by
  have once := r.nodup_listeners kind
  rw [Bool.eq_iff_iff,← mem_listeners,listeners_apply]
  by_cases same : c.kind = kind
  · by_cases here : c.listener = listener
    · subst here
      cases joins : c.joins with
      | true =>
        simp only [same,↓reduceIte,and_self,iff_true]
        split
        · assumption
        · simp
      | false => simp [same,once.mem_erase_iff]
    · have other : listener ≠ c.listener := fun equal => here equal.symm
      cases joins : c.joins with
      | true =>
        simp only [same,here,↓reduceIte,and_false,← mem_listeners]
        split
        · rfl
        · simp [other]
      | false => simp [same,here,once.mem_erase_iff,other,← mem_listeners]
  · simp [same,← mem_listeners]

/-- Who is registered after changes: who joined at last, and who was there before and did neither. -/
theorem has_applyAll (r : Registry η) (changes : List (Change η)) (kind : String) (listener : η) :
    (r.applyAll changes).has kind listener = (last? changes kind listener).getD (r.has kind listener) := by
  induction changes using List.reverseRecOn with
  | nil => rfl
  | append_singleton changes c ih =>
    rw [last?_snoc]
    unfold applyAll at ih ⊢
    rw [List.foldl_append,List.foldl_cons,List.foldl_nil,has_apply,ih]
    split <;> rfl

/-! ### Those who stay -/

namespace Stays

variable {changes : List (Change η)} {kind : String} {listener : η} {n : Nat}

omit [DecidableEq η] in
private theorem lt_or_eq {c change : Change η} (found : (changes ++ [c])[n]? = some change) :
    n < changes.length ∧ changes[n]? = some change ∨ n = changes.length ∧ c = change := by
  rcases Nat.lt_or_ge n changes.length with inside | outside
  · exact .inl ⟨inside,by rwa [List.getElem?_append_left inside] at found⟩
  · rw [List.getElem?_append_right outside] at found
    obtain ⟨last,same⟩ := List.getElem?_eq_some_iff.mp found
    have here : n = changes.length := by
      have := List.length_singleton ▸ last
      omega
    exact .inr ⟨here,by simpa [here] using same⟩

/-- A change that is not about a listener, or lets it join where it is already, leaves it where it is. -/
theorem snoc_iff {c : Change η}
    (steady : c.kind = kind ∧ c.listener = listener → c.joins = true ∧ last? changes kind listener = some true) :
    Stays (changes ++ [c]) kind listener n ↔ Stays changes kind listener n := by
  constructor
  · rintro ⟨joined,away,kept⟩
    rcases lt_or_eq joined with ⟨inside,found⟩ | ⟨rfl,rfl⟩
    · rw [List.take_append_of_le_length inside.le] at away
      refine ⟨found,away,fun m after left => kept m after ?_⟩
      rwa [List.getElem?_append_left (List.getElem?_eq_some_iff.mp left).1]
    · rw [List.take_left] at away
      exact absurd (steady ⟨rfl,rfl⟩).2 away
  · rintro ⟨joined,away,kept⟩
    have inside := (List.getElem?_eq_some_iff.mp joined).1
    refine ⟨by rwa [List.getElem?_append_left inside],by rwa [List.take_append_of_le_length inside.le],?_⟩
    intro m after left
    rcases lt_or_eq left with ⟨-,found⟩ | ⟨-,rfl⟩
    · exact kept m after found
    · exact Bool.false_ne_true (steady ⟨rfl,rfl⟩).1

theorem last (stays : Stays changes kind listener n) : last? changes kind listener = some true := by
  obtain ⟨inside,joined⟩ := List.getElem?_eq_some_iff.mp stays.joined
  have parts : changes = changes.take n ++ [⟨kind,listener,true⟩] ++ changes.drop (n + 1) := by
    rw [← joined,List.take_append_getElem inside,List.take_append_drop]
  -- If the listener shows up after that at all, it only joins where it is.
  have after : ∀ joins, last? (changes.drop (n + 1)) kind listener = some joins → joins = true := by
    intro joins found
    obtain ⟨m,at_m⟩ := List.mem_iff_getElem?.mp (mem_of_last? found)
    rw [List.getElem?_drop] at at_m
    cases joins with
    | true => rfl
    | false => exact absurd at_m (stays.kept _ (by omega))
  rw [parts,last?_append,last?_snoc]
  cases found : last? (changes.drop (n + 1)) kind listener with
  | none => simp
  | some joins => simp [after joins found]

/-- Whoever joins and was not there stays from then on. -/
theorem snoc_new (absent : last? changes kind listener ≠ some true) :
    Stays (changes ++ [⟨kind,listener,true⟩]) kind listener n ↔ n = changes.length := by
  constructor
  · rintro ⟨joined,away,kept⟩
    rcases lt_or_eq joined with ⟨inside,found⟩ | ⟨here,-⟩
    · have before : Stays changes kind listener n := by
        refine ⟨found,?_,fun m after left => kept m after ?_⟩
        · rwa [List.take_append_of_le_length inside.le] at away
        · rwa [List.getElem?_append_left (List.getElem?_eq_some_iff.mp left).1]
      exact absurd before.last absent
    · exact here
  · rintro rfl
    refine ⟨by simp,by rwa [List.take_left],fun m after left => ?_⟩
    have inside := (List.getElem?_eq_some_iff.mp left).1
    simp at inside
    omega

theorem lt_length (stays : Stays changes kind listener n) : n < changes.length :=
  (List.getElem?_eq_some_iff.mp stays.joined).1

end Stays

namespace Lists

variable {changes : List (Change η)} {kind : String} {listeners : List η}

theorem nil (kind : String) : Lists ([] : List (Change η)) kind [] where
  once := List.nodup_nil
  member listener := by simp [last?]
  came := by simp
  ordered := List.Pairwise.nil

/-- A change after which there is nobody who was not there before. -/
theorem remaining (lists : Lists changes kind listeners) (c : Change η) {others : List η}
    (fewer : others.Sublist listeners)
    (member : ∀ listener, listener ∈ others ↔ last? (changes ++ [c]) kind listener = some true) :
    Lists (changes ++ [c]) kind others := by
  have still : ∀ {listener n}, listener ∈ others →
      (Stays (changes ++ [c]) kind listener n ↔ Stays changes kind listener n) := by
    intro listener n among
    refine Stays.snoc_iff fun about => ⟨?_,(lists.member listener).mp (fewer.subset among)⟩
    have last := (member listener).mp among
    rw [last?_snoc,if_pos about] at last
    exact Option.some.inj last
  refine ⟨lists.once.sublist fewer,member,fun listener among => ?_,?_⟩
  · obtain ⟨n,stays⟩ := lists.came listener (fewer.subset among)
    exact ⟨n,(still among).mpr stays⟩
  · refine (lists.ordered.sublist fewer).imp_of_mem ?_
    intro first second isFirst isSecond before m n staysFirst staysSecond
    exact before m n ((still isFirst).mp staysFirst) ((still isSecond).mp staysSecond)

/-- A listener that joins and was not there is the last one. -/
theorem joining (lists : Lists changes kind listeners) {listener : η} (absent : listener ∉ listeners) :
    Lists (changes ++ [⟨kind,listener,true⟩]) kind (listeners ++ [listener]) := by
  have away : last? changes kind listener ≠ some true := fun last => absent ((lists.member listener).mpr last)
  have still : ∀ {other n}, other ∈ listeners →
      (Stays (changes ++ [⟨kind,listener,true⟩]) kind other n ↔ Stays changes kind other n) := by
    intro other n among
    refine Stays.snoc_iff ?_
    rintro ⟨-,rfl⟩
    exact absurd among absent
  refine ⟨?_,fun other => ?_,fun other among => ?_,?_⟩
  · refine List.nodup_append.mpr ⟨lists.once,by simp,?_⟩
    rintro other among _ last rfl
    exact absent (List.mem_singleton.mp last ▸ among)
  · rw [last?_snoc,List.mem_append,List.mem_singleton,lists.member other]
    by_cases same : listener = other
    · simp [same]
    · simp [same,Ne.symm same]
  · rcases List.mem_append.mp among with before | last
    · obtain ⟨n,stays⟩ := lists.came other before
      exact ⟨n,(still before).mpr stays⟩
    · obtain rfl := List.mem_singleton.mp last
      exact ⟨_,(Stays.snoc_new away).mpr rfl⟩
  · refine List.pairwise_append.mpr ⟨?_,List.pairwise_singleton _ _,?_⟩
    · refine lists.ordered.imp_of_mem ?_
      intro first second isFirst isSecond before m n staysFirst staysSecond
      exact before m n ((still isFirst).mp staysFirst) ((still isSecond).mp staysSecond)
    · intro first among last isLast m n staysFirst staysLast
      obtain rfl := List.mem_singleton.mp isLast
      rw [(Stays.snoc_new away).mp staysLast]
      exact ((still among).mp staysFirst).lt_length

/-- One more change keeps a registry in agreement with its history. -/
theorem step {r : Registry η} (lists : Lists changes kind (r.listeners kind)) (c : Change η) :
    Lists (changes ++ [c]) kind ((r.apply c).listeners kind) := by
  have member : ∀ listener,
      listener ∈ (r.apply c).listeners kind ↔ last? (changes ++ [c]) kind listener = some true := by
    intro listener
    have before := lists.member listener
    rw [mem_listeners] at before ⊢
    rw [has_apply,last?_snoc]
    split
    · simp
    · exact before
  obtain ⟨k,listener,joins⟩ := c
  rw [listeners_apply] at member ⊢
  by_cases same : k = kind
  · subst same
    cases joins with
    | true =>
      by_cases present : listener ∈ r.listeners k
      · simp only [↓reduceIte,present] at member ⊢
        exact lists.remaining _ (List.Sublist.refl _) member
      · simp only [↓reduceIte,present]
        exact lists.joining present
    | false =>
      simp only [↓reduceIte,Bool.false_eq_true] at member ⊢
      exact lists.remaining _ List.erase_sublist member
  · simp only [same,↓reduceIte] at member ⊢
    exact lists.remaining _ (List.Sublist.refl _) member

end Lists

/-! ### Kinds -/

private theorem nodup_eraseDups (kinds : List String) : kinds.eraseDups.Nodup := by
  cases kinds with
  | nil => simp
  | cons kind rest =>
    rw [List.eraseDups_cons,List.nodup_cons]
    exact ⟨by simp [List.mem_eraseDups],nodup_eraseDups _⟩
termination_by kinds.length
decreasing_by exact Nat.lt_succ_of_le (List.length_filter_le _ _)

section
omit [DecidableEq η]

theorem nodup_kinds (r : Registry η) : r.kinds.Nodup :=
  (List.mergeSort_perm _ _).nodup_iff.mpr (nodup_eraseDups _)

theorem sorted_kinds (r : Registry η) : r.kinds.Pairwise (· < ·) := by
  have sorted : r.kinds.Pairwise (· ≤ ·) := List.pairwise_mergeSort' (· ≤ ·) _
  exact (sorted.and r.nodup_kinds).imp fun pair => lt_of_le_of_ne pair.1 pair.2

theorem mem_kinds (r : Registry η) (kind : String) : kind ∈ r.kinds ↔ r.listeners kind ≠ [] := by
  unfold kinds listeners
  rw [(List.mergeSort_perm _ _).mem_iff,List.mem_eraseDups,List.mem_map,ne_eq,List.filterMap_eq_nil_iff]
  push Not
  refine exists_congr fun pair => and_congr_right fun _ => ?_
  simp

theorem count_none (r : Registry η) : r.count none = (r.kinds.map fun kind => (r.listeners kind).length).sum := by
  -- A kind has as many listeners as it stands among the subscriptions, and these are counted by kinds without doubles.
  have each : ∀ kind, (r.listeners kind).length = (r.subscriptions.map Prod.fst).count kind := by
    intro kind
    unfold listeners
    rw [List.length_filterMap_eq_countP,List.count,List.countP_map]
    refine List.countP_congr fun pair _ => ?_
    by_cases same : pair.1 = kind <;> simp [same]
  have perm : r.kinds.Perm (r.subscriptions.map Prod.fst).dedup := by
    refine (List.perm_ext_iff_of_nodup r.nodup_kinds (List.nodup_dedup _)).mpr fun kind => ?_
    rw [List.mem_dedup,kinds,(List.mergeSort_perm _ _).mem_iff,List.mem_eraseDups]
  have total := List.sum_map_count_dedup_eq_length (r.subscriptions.map Prod.fst)
  simp only [each]
  rw [(perm.map _).sum_eq,total,List.length_map]
  rfl

end

/-! ### The whole history -/

theorem lists_applyAll (changes : List (Change η)) (kind : String) :
    Lists changes kind ((empty.applyAll changes).listeners kind) := by
  induction changes using List.reverseRecOn with
  | nil => exact Lists.nil kind
  | append_singleton changes c ih =>
    unfold applyAll at ih ⊢
    rw [List.foldl_append]
    exact ih.step c

/-- The listeners of a kind depend on the changes to that kind alone. -/
theorem listeners_applyAll (r : Registry η) (changes : List (Change η)) (kind : String) :
    (r.applyAll changes).listeners kind = (r.applyAll (changes.filter fun c => c.kind = kind)).listeners kind := by
  induction changes using List.reverseRecOn with
  | nil => rfl
  | append_singleton changes c ih =>
    unfold applyAll at ih ⊢
    rw [List.filter_append,List.foldl_append,List.foldl_append,List.foldl_cons,List.foldl_nil,listeners_apply,ih]
    by_cases same : c.kind = kind
    · simp [same,listeners_apply]
    · simp [same]

/-- A registry that began empty reflects its whole history. -/
theorem reflects (changes : List (Change η)) : Reflects changes (empty.applyAll changes) where
  lists := lists_applyAll changes
  has kind listener := by
    rw [has_applyAll]
    cases last? changes kind listener with
    | none => simp [has,empty]
    | some joins => simp
  apart := listeners_applyAll empty changes
  sorted := sorted_kinds _
  kinds := mem_kinds _
  counted _ := rfl
  total := count_none _

end ShotRecorder.Registry
