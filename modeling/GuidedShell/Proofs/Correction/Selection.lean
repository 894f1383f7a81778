import GuidedShell.Proofs.Correction.Rank
import Mathlib.Data.List.FinRange
import Mathlib.Data.List.Induction

/-! Ranking selects: the near names come by distance and, at one distance, in the order in which they
are known, as far as a menu has room for them. -/
namespace GuidedShell.Correction

section Layers

variable {α β : Type} {key : α → Nat} {n : Nat} {x : α} {xs : List α}

/-- The elements with keys below `n`, those with the smallest key first. Elements with one key keep
their order. -/
def layers (key : α → Nat) (n : Nat) (xs : List α) : List α :=
  (List.range n).flatMap fun d => xs.filter (key · = d)

theorem layers_succ (key : α → Nat) (n : Nat) (xs : List α) :
    layers key (n + 1) xs = layers key n xs ++ xs.filter (key · = n) := by
  simp [layers, List.range_succ]

theorem mem_layers_iff : x ∈ layers key n xs ↔ x ∈ xs ∧ key x < n := by
  simp [layers, and_comm]

theorem map_layers (f : β → α) (key : α → Nat) (n : Nat) (xs : List β) :
    (layers (key ∘ f) n xs).map f = layers key n (xs.map f) := by
  unfold layers
  rw [List.map_flatMap]
  refine List.flatMap_congr fun d _ => ?_
  rw [List.filter_map]
  rfl

theorem layers_filter (key : α → Nat) (n : Nat) (xs : List α) :
    layers key n (xs.filter (key · < n)) = layers key n xs := by
  unfold layers
  refine List.flatMap_congr fun d hd => ?_
  have hlt : d < n := List.mem_range.1 hd
  rw [List.filter_filter]
  refine List.filter_congr fun x _ => ?_
  by_cases hx : key x = d
  · simp [hx, hlt]
  · simp [hx]

theorem layers_append_of_le (h : n ≤ key x) (xs : List α) :
    layers key n (xs ++ [x]) = layers key n xs := by
  unfold layers
  refine List.flatMap_congr fun d hd => ?_
  have hne : key x ≠ d := by
    have := List.mem_range.1 hd
    omega
  simp [List.filter_append, hne]

/-- The layers are in order by their keys, and by the order of the list within one layer. -/
theorem pairwise_layers {R : α → α → Prop} (h : xs.Pairwise R) (key : α → Nat) (n : Nat) :
    (layers key n xs).Pairwise fun a b => key a < key b ∨ key a = key b ∧ R a b := by
  induction n with
  | zero => exact .nil
  | succ n ih =>
    rw [layers_succ, List.pairwise_append]
    refine ⟨ih, ?_, fun a ha b hb => ?_⟩
    · refine (h.filter _).imp_of_mem fun {a b} ha hb hab => .inr ⟨?_, hab⟩
      have hka : key a = n := by simpa using (List.mem_filter.1 ha).2
      have hkb : key b = n := by simpa using (List.mem_filter.1 hb).2
      rw [hka, hkb]
    · have hka : key a < n := (mem_layers_iff.1 ha).2
      have hkb : key b = n := by simpa using (List.mem_filter.1 hb).2
      exact .inl (hkb ▸ hka)

end Layers

section Order

variable {p : Nat × String} {front back scored : List (Nat × String)} {n : Nat}

theorem insertNear_of_le (h : ∀ q ∈ front, q.1 ≤ p.1) : insertNear p front = front ++ [p] := by
  induction front with
  | nil => rfl
  | cons q qs ih =>
    have hq : ¬p.1 < q.1 := Nat.not_lt.2 (h q List.mem_cons_self)
    rw [insertNear, if_neg hq, ih fun r hr => h r (List.mem_cons_of_mem q hr)]
    rfl

theorem insertNear_append_of_lt (h : ∀ q ∈ back, p.1 < q.1) :
    insertNear p (front ++ back) = insertNear p front ++ back := by
  induction front with
  | nil =>
    cases back with
    | nil => rfl
    | cons q qs =>
      have hq : p.1 < q.1 := h q List.mem_cons_self
      simp [insertNear, hq]
  | cons q qs ih =>
    rw [List.cons_append, insertNear, insertNear]
    split
    · rfl
    · rw [ih]
      rfl

/-- A pair goes to the end of its layer. -/
theorem insertNear_layers (h : p.1 < n) (scored : List (Nat × String)) :
    insertNear p (layers Prod.fst n scored) = layers Prod.fst n (scored ++ [p]) := by
  induction n with
  | zero => exact absurd h (Nat.not_lt_zero _)
  | succ n ih =>
    rw [layers_succ _ _ (scored ++ [p]), List.filter_append]
    by_cases hp : p.1 = n
    · have hle : ∀ q ∈ layers Prod.fst (n + 1) scored, q.1 ≤ p.1 := by
        intro q hq
        have hlt : q.1 < n + 1 := (mem_layers_iff.1 hq).2
        omega
      rw [insertNear_of_le hle, layers_succ, layers_append_of_le (Nat.le_of_eq hp.symm)]
      simp [hp]
    · have hlt : ∀ q ∈ scored.filter (·.1 = n), p.1 < q.1 := by
        intro q hq
        have hq : q.1 = n := by simpa using (List.mem_filter.1 hq).2
        omega
      rw [layers_succ, insertNear_append_of_lt hlt, ih (by omega)]
      simp [hp]

theorem nearestFirst_eq_layers (h : ∀ p ∈ scored, p.1 < n) :
    nearestFirst scored = layers Prod.fst n scored := by
  induction scored using List.reverseRecOn with
  | nil => simp [nearestFirst, layers]
  | append_singleton ps p ih =>
    have hfold : nearestFirst (ps ++ [p]) = insertNear p (nearestFirst ps) := by
      simp [nearestFirst]
    rw [hfold, ih fun q hq => h q (List.mem_append_left _ hq)]
    exact insertNear_layers (h p (by simp)) ps

end Order

variable {typo : String} {known : List String}

theorem rank_eq_layers (typo : String) (known : List String) :
    rank typo known = (layers (distance typo) maxDistance known).take maxCandidates := by
  let score : String → Nat × String := fun name => (distance typo name, name)
  have hnear : ∀ p ∈ (known.map score).filter (·.1 < maxDistance), p.1 < maxDistance := by
    intro p hp
    simpa using (List.mem_filter.1 hp).2
  have hscored : rank typo known =
      ((nearestFirst ((known.map score).filter (·.1 < maxDistance))).take maxCandidates).map (·.2) :=
    rfl
  have hnames : (layers Prod.fst maxDistance (known.map score)).map (·.2) =
      layers (distance typo) maxDistance known := by
    rw [← map_layers, List.map_map]
    exact List.map_id _
  rw [hscored, nearestFirst_eq_layers hnear, layers_filter, List.map_take, hnames]

theorem offer?_eq_none_iff {args : List String} :
    offer? typo args known = none ↔ ∀ name ∈ known, maxDistance ≤ distance typo name := by
  have hoffer : offer? typo args known = none ↔ rank typo known = [] := by
    unfold offer?
    cases rank typo known with
    | nil => simp
    | cons name names => simp
  have hempty : rank typo known = [] ↔ layers (distance typo) maxDistance known = [] := by
    rw [rank_eq_layers, List.take_eq_nil_iff]
    simp [maxCandidates]
  rw [hoffer, hempty, List.eq_nil_iff_forall_not_mem]
  simp only [mem_layers_iff, not_and, Nat.not_lt]

/-- The name at one place comes before the name at another: it is nearer, or as near and known
earlier. -/
def Before (typo : String) (known : List String) (i j : Fin known.length) : Prop :=
  distance typo (known.get i) < distance typo (known.get j) ∨
    distance typo (known.get i) = distance typo (known.get j) ∧ i < j

/-- These are the places of the names to offer. Whatever near name is left out comes after three
others. -/
structure Selects (typo : String) (known : List String) (places : List (Fin known.length)) :
    Prop where
  few : places.length ≤ 3
  near : ∀ i ∈ places, distance typo (known.get i) < 3
  ordered : places.Pairwise (Before typo known)
  complete : ∀ i, distance typo (known.get i) < 3 → i ∉ places →
    places.length = 3 ∧ ∀ j ∈ places, Before typo known j i

namespace Before

variable {i j : Fin known.length}

theorem irrefl (i : Fin known.length) : ¬Before typo known i i := by
  unfold Before
  omega

theorem asymm (h : Before typo known i j) : ¬Before typo known j i := by
  unfold Before at h ⊢
  omega

end Before

/-- The places of all near names, in the order in which they are offered. -/
def nearPlaces (typo : String) (known : List String) : List (Fin known.length) :=
  layers (distance typo ∘ known.get) 3 (List.finRange known.length)

theorem mem_nearPlaces_iff {i : Fin known.length} :
    i ∈ nearPlaces typo known ↔ distance typo (known.get i) < 3 := by
  unfold nearPlaces
  rw [mem_layers_iff]
  simp

theorem pairwise_nearPlaces (typo : String) (known : List String) :
    (nearPlaces typo known).Pairwise (Before typo known) :=
  pairwise_layers (List.pairwise_lt_finRange _) _ 3

theorem map_nearPlaces (typo : String) (known : List String) :
    (nearPlaces typo known).map known.get = layers (distance typo) 3 known := by
  unfold nearPlaces
  rw [map_layers, List.map_get_finRange]

theorem nodup_of_pairwise {places : List (Fin known.length)}
    (h : places.Pairwise (Before typo known)) : places.Nodup := by
  refine h.imp fun {i j} hij => ?_
  rintro rfl
  exact Before.irrefl i hij

theorem selects_take (typo : String) (known : List String) :
    Selects typo known ((nearPlaces typo known).take 3) where
  few := List.length_take_le _ _
  near := fun _ hi => mem_nearPlaces_iff.1 (List.mem_of_mem_take hi)
  ordered := (pairwise_nearPlaces typo known).sublist (List.take_sublist _ _)
  complete := by
    intro i hi hout
    have hcut := List.take_append_drop 3 (nearPlaces typo known)
    have hdrop : i ∈ (nearPlaces typo known).drop 3 := by
      have hmem := mem_nearPlaces_iff.2 hi
      rw [← hcut] at hmem
      exact (List.mem_append.1 hmem).resolve_left hout
    have hlength : 3 < (nearPlaces typo known).length := by
      have hpos := List.length_pos_of_mem hdrop
      rw [List.length_drop] at hpos
      omega
    have hpairs := pairwise_nearPlaces typo known
    rw [← hcut] at hpairs
    exact ⟨List.length_take_of_le (Nat.le_of_lt hlength),
      fun j hj => (List.pairwise_append.1 hpairs).2.2 j hj i hdrop⟩

/-- What the places leave out can be put after them, and then they are a front of all near places. -/
theorem Selects.eq_take {places : List (Fin known.length)} (h : Selects typo known places) :
    places = (nearPlaces typo known).take 3 := by
  let rest := (nearPlaces typo known).filter (· ∉ places)
  have hrest {i : Fin known.length} (hi : i ∈ rest) :
      distance typo (known.get i) < 3 ∧ i ∉ places := by
    obtain ⟨hmem, hout⟩ := List.mem_filter.1 hi
    exact ⟨mem_nearPlaces_iff.1 hmem, by simpa using hout⟩
  have hordered : (places ++ rest).Pairwise (Before typo known) := by
    refine List.pairwise_append.2 ⟨h.ordered, ?_, fun j hj i hi => ?_⟩
    · exact (pairwise_nearPlaces typo known).sublist List.filter_sublist
    · exact (h.complete i (hrest hi).1 (hrest hi).2).2 j hj
  have hmem (i : Fin known.length) : i ∈ places ++ rest ↔ i ∈ nearPlaces typo known := by
    rw [List.mem_append, mem_nearPlaces_iff]
    refine ⟨fun hi => hi.elim (h.near i) fun hi => (hrest hi).1, fun hi => ?_⟩
    by_cases hin : i ∈ places
    · exact .inl hin
    · exact .inr (List.mem_filter.2 ⟨mem_nearPlaces_iff.2 hi, by simpa using hin⟩)
  have hperm : (places ++ rest).Perm (nearPlaces typo known) :=
    (List.perm_ext_iff_of_nodup (nodup_of_pairwise hordered)
      (nodup_of_pairwise (pairwise_nearPlaces typo known))).2 hmem
  have hall : places ++ rest = nearPlaces typo known :=
    hperm.eq_of_pairwise (fun _ _ _ _ hij hji => absurd hji hij.asymm) hordered
      (pairwise_nearPlaces typo known)
  rw [← hall]
  cases hcase : rest with
  | nil => rw [List.append_nil, List.take_of_length_le h.few]
  | cons i is =>
    have hi : i ∈ rest := hcase ▸ List.mem_cons_self
    have hlength := (h.complete i (hrest hi).1 (hrest hi).2).1
    rw [List.take_append_of_le_length (Nat.le_of_eq hlength.symm),
      List.take_of_length_le h.few]

/-- The names offered for a typo are the first three at most of the names at distance 0, then those
at distance 1, then those at distance 2, each in the order in which they are known. Said of places
among the known names, where a name may stand more than once, they are the one selection that is
ordered by distance and place and leaves out nothing that comes before what it has. Nothing is
offered just if no known name is near. -/
theorem rank_is_stable_selection (typo : String) (args known : List String) :
    rank typo known =
        (known.filter (distance typo · = 0) ++ known.filter (distance typo · = 1) ++
          known.filter (distance typo · = 2)).take 3 ∧
      (∃ places, rank typo known = places.map known.get ∧
        ∀ others, Selects typo known others ↔ others = places) ∧
      (offer? typo args known = none ↔ ∀ name ∈ known, ¬distance typo name < 3) := by
  refine ⟨?_, ⟨(nearPlaces typo known).take 3, ?_, fun others => ?_⟩, ?_⟩
  · rw [rank_eq_layers]
    simp [layers, maxDistance, maxCandidates, List.range_succ]
  · rw [rank_eq_layers, List.map_take, map_nearPlaces]
    rfl
  · refine ⟨Selects.eq_take, ?_⟩
    rintro rfl
    exact selects_take typo known
  · simp only [offer?_eq_none_iff, maxDistance, Nat.not_lt]

/-- A name that is known twice is offered twice. -/
example : rank "git" ["gist", "git", "gi", "git", "ls"] = ["git", "git", "gist"] := by
  decide +kernel

end GuidedShell.Correction
