import Mathlib.Data.List.Forall2
import University.Generation

/-! # What all values of an action have in common

A judgement says of an action that all its values satisfy a predicate. Repeated actions are judged
once and for all here, by the recursion that repeats them: a list made by `times` has the length asked
for, a list made by `concatMap` is a list of blocks, one for each element.
-/

namespace University

/-- A way to say that all values of an action satisfy a predicate. It has to pass from the parts of
an action to the whole. -/
structure Judgement (m : Type → Type) [Monad m] where
  Holds : {α : Type} → m α → (α → Prop) → Prop
  pure : ∀ {α : Type} {P : α → Prop} {x : α}, P x → Holds (Pure.pure x) P
  bind : ∀ {α β : Type} {action : m α} {next : α → m β} {P : α → Prop} {R : β → Prop},
    Holds action P → (∀ x, P x → Holds (next x) R) → Holds (action >>= next) R

/-- `ys` is put together from one block for every element of `xs`, and `P` relates the elements to
their blocks. -/
inductive Blocks {α β : Type} (P : α → List β → Prop) : List α → List β → Prop where
  | nil : Blocks P [] []
  | cons {x : α} {block : List β} {xs : List α} {ys : List β} :
    P x block → Blocks P xs ys → Blocks P (x :: xs) (block ++ ys)

/-- Everything in a list that is related to another one by one is related to something there. -/
theorem exists_of_forall₂ {α β : Type} {R : α → β → Prop} {xs : List α} {ys : List β}
    (h : List.Forall₂ R xs ys) {y : β} (hy : y ∈ ys) : ∃ x ∈ xs, R x y := by
  induction h with
  | nil => cases hy
  | cons hx _ ih =>
      cases hy with
      | head => exact ⟨_, by simp, hx⟩
      | tail _ hy =>
          obtain ⟨x, hmem, found⟩ := ih hy
          exact ⟨x, List.mem_cons_of_mem _ hmem, found⟩

theorem map_eq_of_forall₂ {α β γ : Type} {R : α → β → Prop} {f : α → γ} {g : β → γ} {xs : List α}
    {ys : List β} (h : List.Forall₂ R xs ys) (hR : ∀ x y, R x y → g y = f x) :
    ys.map g = xs.map f := by
  induction h with
  | nil => rfl
  | cons hx _ ih => rw [List.map_cons, List.map_cons, hR _ _ hx, ih]

namespace Blocks

variable {α β γ : Type} {P R : α → List β → Prop} {xs : List α} {ys : List β}

theorem concat (h : Blocks P xs ys) {x : α} {block : List β} (hx : P x block) :
    Blocks P (xs ++ [x]) (ys ++ block) := by
  induction h with
  | nil => simpa using Blocks.cons hx .nil
  | cons hz _ ih =>
      rw [List.append_assoc]
      exact .cons hz ih

/-- The same blocks, with less said of them. -/
theorem imp (h : Blocks P xs ys) (hPR : ∀ x ∈ xs, ∀ block, P x block → R x block) :
    Blocks R xs ys := by
  induction h with
  | nil => exact .nil
  | cons hx _ ih => exact .cons (hPR _ (by simp) _ hx) (ih fun x hx => hPR x (by simp [hx]))

/-- Every element of the whole list comes from the block of some element. -/
theorem exists_of_mem (h : Blocks P xs ys) {y : β} (hy : y ∈ ys) :
    ∃ x ∈ xs, ∃ block, P x block ∧ y ∈ block := by
  induction h with
  | nil => cases hy
  | @cons x block xs ys hx _ ih =>
      rcases List.mem_append.mp hy with hy | hy
      · exact ⟨x, by simp, block, hx, hy⟩
      · obtain ⟨z, hz, found⟩ := ih hy
        exact ⟨z, List.mem_cons_of_mem _ hz, found⟩

theorem forall_mem (h : Blocks P xs ys) {S : β → Prop}
    (hS : ∀ x block, P x block → ∀ y ∈ block, S y) : ∀ y ∈ ys, S y := by
  intro y hy
  obtain ⟨x, -, block, hblock, hmem⟩ := h.exists_of_mem hy
  exact hS x block hblock y hmem

/-- Everything in the whole list has a parent, if everything in a block has one. -/
theorem exists_parent (h : Blocks P xs ys) {S : α → β → Prop}
    (hS : ∀ x block, P x block → ∀ y ∈ block, S x y) : ∀ y ∈ ys, ∃ x ∈ xs, S x y := by
  intro y hy
  obtain ⟨x, hx, block, hblock, hmem⟩ := h.exists_of_mem hy
  exact ⟨x, hx, hS x block hblock y hmem⟩

/-- The block of every element is part of the whole list. -/
theorem exists_block (h : Blocks P xs ys) {x : α} (hx : x ∈ xs) :
    ∃ block, P x block ∧ ∀ y ∈ block, y ∈ ys := by
  induction h with
  | nil => cases hx
  | @cons z block xs ys hz _ ih =>
      rcases List.mem_cons.mp hx with rfl | hx
      · exact ⟨block, hz, fun y hy => List.mem_append_left _ hy⟩
      · obtain ⟨found, hfound, inside⟩ := ih hx
        exact ⟨found, hfound, fun y hy => List.mem_append_right _ (inside y hy)⟩

/-- Blocks of one length. -/
theorem length_eq (h : Blocks P xs ys) {n : Nat} (hn : ∀ x block, P x block → block.length = n) :
    ys.length = xs.length * n := by
  induction h with
  | nil => simp
  | cons hx _ ih =>
      rw [List.length_append, hn _ _ hx, ih, List.length_cons, Nat.succ_mul, Nat.add_comm]

/-- Values that are distinct within every block are distinct altogether where a value tells the element
that its block belongs to. -/
theorem nodup_map {ι κ : Type} (key : α → ι) {value : β → κ} (origin : κ → ι) (h : Blocks P xs ys)
    (hkeys : (xs.map key).Nodup)
    (hblock : ∀ x block, P x block →
      (block.map value).Nodup ∧ ∀ y ∈ block, origin (value y) = key x) :
    (ys.map value).Nodup := by
  induction h with
  | nil => simp
  | @cons x block xs ys hx hrest ih =>
      obtain ⟨new, hkeys⟩ := List.nodup_cons.mp hkeys
      rw [List.map_append, List.nodup_append]
      refine ⟨(hblock x block hx).1, ih hkeys, ?_⟩
      rintro _ here _ there rfl
      obtain ⟨y, hy, same⟩ := List.mem_map.mp here
      obtain ⟨z, hz, rfl⟩ := List.mem_map.mp there
      obtain ⟨other, hother, _, hblock', hmem⟩ := hrest.exists_of_mem hz
      have keys : key x = key other := by
        rw [← (hblock x block hx).2 y hy, same, (hblock other _ hblock').2 z hmem]
      exact new (keys ▸ List.mem_map_of_mem hother)

section Keys

variable {κ : Type} [BEq κ] [LawfulBEq κ] {key : α → κ} {parent : β → κ}

/-- Where keys tell elements apart, what names an element is its block. -/
theorem block_of_filter (h : Blocks P xs ys) (hkeys : (xs.map key).Nodup)
    (hparent : ∀ x block, P x block → ∀ y ∈ block, parent y = key x) {x : α} (hx : x ∈ xs) :
    P x (ys.filter (parent · == key x)) := by
  induction h with
  | nil => cases hx
  | @cons z block zs ys hz hrest ih =>
      obtain ⟨new, hkeys⟩ := List.nodup_cons.mp hkeys
      have own := hparent z block hz
      rw [List.filter_append]
      rcases List.mem_cons.mp hx with rfl | hx
      · have all : block.filter (parent · == key x) = block :=
          List.filter_eq_self.mpr fun y hy => beq_iff_eq.mpr (own y hy)
        have none_later : ys.filter (parent · == key x) = [] := by
          apply List.filter_eq_nil_iff.mpr
          intro y hy same
          obtain ⟨w, hw, named⟩ := hrest.exists_parent hparent y hy
          rw [← beq_iff_eq.mp same, named] at new
          exact new (List.mem_map_of_mem hw)
        rwa [all, none_later, List.append_nil]
      · have none_here : block.filter (parent · == key x) = [] := by
          apply List.filter_eq_nil_iff.mpr
          intro y hy same
          rw [← own y hy, beq_iff_eq.mp same] at new
          exact new (List.mem_map_of_mem hx)
        rw [none_here, List.nil_append]
        exact ih hkeys hx

omit [BEq κ] [LawfulBEq κ] in
/-- Blocks of one length name their elements that often, one element after the other. -/
theorem map_parent_eq (h : Blocks P xs ys) {n : Nat} (hn : ∀ x block, P x block → block.length = n)
    (hparent : ∀ x block, P x block → ∀ y ∈ block, parent y = key x) :
    ys.map parent = xs.flatMap fun x => List.replicate n (key x) := by
  induction h with
  | nil => rfl
  | @cons x block xs ys hx _ ih =>
      have named : block.map parent = List.replicate n (key x) := by
        simpa [List.eq_replicate_iff, hn x block hx] using hparent x block hx
      rw [List.map_append, List.flatMap_cons, named, ih]

end Keys

theorem forall₂_of_singletons {S : α → β → Prop}
    (h : Blocks (fun x block => ∃ y, block = [y] ∧ S x y) xs ys) : List.Forall₂ S xs ys := by
  induction h with
  | nil => exact .nil
  | cons hx _ ih =>
      obtain ⟨y, rfl, hy⟩ := hx
      exact .cons hy ih

/-- The same blocks belong to elements that are related one by one. -/
theorem of_forall₂ {S : α → γ → Prop} {P' : γ → List β → Prop} {zs : List γ}
    (hxz : List.Forall₂ S xs zs) (h : Blocks P xs ys)
    (hP : ∀ x z block, S x z → P x block → P' z block) : Blocks P' zs ys := by
  induction h generalizing zs with
  | nil => cases hxz; exact .nil
  | cons hx _ ih =>
      cases hxz with
      | cons hs hrest => exact .cons (hP _ _ _ hs hx) (ih hrest)

end Blocks

namespace Judgement

variable {m : Type → Type} [Monad m] {α β : Type} (J : Judgement m) {P : α → Prop}

/-- The results of `n` runs. -/
theorem times {action : m α} (h : J.Holds action P) (n : Nat) :
    J.Holds (University.times n action) fun xs => xs.length = n ∧ ∀ x ∈ xs, P x := by
  induction n with
  | zero => exact J.pure ⟨rfl, by simp⟩
  | succ n ih =>
      apply J.bind h
      intro x hx
      apply J.bind ih
      intro xs hxs
      refine J.pure ⟨?_, ?_⟩
      · simp [hxs.1]
      · exact List.forall_mem_cons.mpr ⟨hx, hxs.2⟩

/-- The results for the elements of a list, put together. -/
theorem concatMap {R : α → List β → Prop} {action : α → m (List β)} (xs : List α)
    (h : ∀ x ∈ xs, J.Holds (action x) (R x)) :
    J.Holds (University.concatMap action xs) (Blocks R xs) := by
  induction xs with
  | nil => exact J.pure .nil
  | cons x xs ih =>
      apply J.bind (h x (by simp))
      intro block hblock
      have later := ih fun y hy => h y (List.mem_cons_of_mem _ hy)
      apply J.bind later
      intro ys hys
      exact J.pure (.cons hblock hys)

/-- The results for the elements of a list, one for each. -/
theorem mapM [LawfulMonad m] {R : α → β → Prop} {action : α → m β} (xs : List α)
    (h : ∀ x ∈ xs, J.Holds (action x) (R x)) :
    J.Holds (xs.mapM action) (List.Forall₂ R xs) := by
  induction xs with
  | nil =>
      rw [List.mapM_nil]
      exact J.pure .nil
  | cons x xs ih =>
      rw [List.mapM_cons]
      apply J.bind (h x (by simp))
      intro y hy
      have later := ih fun z hz => h z (List.mem_cons_of_mem _ hz)
      apply J.bind later
      intro ys hys
      exact J.pure (.cons hy hys)

/-- A state that is carried through a list. `Inv` relates the part of the list that is done to the
state. -/
theorem foldlM {σ : Type} {step : σ → α → m σ} (Inv : List α → σ → Prop) (xs : List α) {s : σ}
    (hs : Inv [] s)
    (h : ∀ before x after s, xs = before ++ x :: after → Inv before s →
      J.Holds (step s x) (Inv (before ++ [x]))) :
    J.Holds (xs.foldlM step s) (Inv xs) := by
  have go : ∀ before after s, xs = before ++ after → Inv before s →
      J.Holds (after.foldlM step s) (Inv xs) := by
    intro before after
    induction after generalizing before with
    | nil =>
        intro s split hs
        rw [List.append_nil] at split
        exact J.pure (split ▸ hs)
    | cons x after ih =>
        intro s split hs
        rw [List.foldlM_cons]
        apply J.bind (h before x after s split hs)
        intro t ht
        exact ih (before ++ [x]) t (by simp [split]) ht
  exact go [] xs s rfl hs

end Judgement

end University
