import Mathlib.Data.List.Basic

/-! Handlers that run over a state, write events and may fail, where a failure keeps what was written
before it. The operations of a handler are functions of the state, so that a statement about every
state and every operation is one about every way in which they may answer. -/

namespace WalkieTalkie.Lib

def Serve (ε σ α : Type) : Type := σ → Except String α × List ε × σ

namespace Serve

variable {ε σ α β : Type}

instance : Monad (Serve ε σ) where
  pure a s := (.ok a, [], s)
  bind m f s :=
    match m s with
    | (.error e, w, s') => (.error e, w, s')
    | (.ok a, w, s') => ((f a s').1, w ++ (f a s').2.1, (f a s').2.2)

def write (ev : ε) : Serve ε σ Unit := fun s => (.ok (), [ev], s)

/-- An operation whose failure is the handler's. -/
def call (op : σ → Except String α × σ) : Serve ε σ α := fun s => ((op s).1, [], (op s).2)

/-- An operation whose answer, a failure or not, is for the handler to see. -/
def ask (op : σ → α × σ) : Serve ε σ α := fun s => (.ok (op s).1, [], (op s).2)

def each (f : α → Serve ε σ Unit) : List α → Serve ε σ Unit
  | [] => pure ()
  | x :: xs => f x >>= fun _ => each f xs

/-- What holds of the events that a handler writes, when it returns and when it fails. -/
def Post (m : Serve ε σ α) (returned : α → List ε → Prop) (failed : List ε → Prop) : Prop :=
  ∀ s, match m s with
    | (.ok a, w, _) => returned a w
    | (.error _, w, _) => failed w

def Silent (m : Serve ε σ α) : Prop := ∀ s, (m s).2.1 = []

variable {m : Serve ε σ α} {f : α → Serve ε σ β} {returned : β → List ε → Prop}
  {failed : List ε → Prop}

lemma post_write {ev : ε} {returned : Unit → List ε → Prop} (h : returned () [ev]) :
    Post (write ev : Serve ε σ Unit) returned failed :=
  fun _ => h

lemma silent_pure (a : α) : Silent (pure a : Serve ε σ α) := fun _ => rfl

lemma silent_call (op : σ → Except String α × σ) : Silent (call op : Serve ε σ α) := fun _ => rfl

lemma silent_ask (op : σ → α × σ) : Silent (ask op : Serve ε σ α) := fun _ => rfl

lemma post_bind (h : Post m (fun a w => Post (f a) (fun b w' => returned b (w ++ w'))
    (fun w' => failed (w ++ w'))) failed) : Post (m >>= f) returned failed := by
  intro s
  have hm := h s
  change match (match m s with
    | (.error e, w, s') => (.error e, w, s')
    | (.ok a, w, s') => ((f a s').1, w ++ (f a s').2.1, (f a s').2.2) : Except String β × List ε × σ) with
    | (.ok a, w, _) => returned a w
    | (.error _, w, _) => failed w
  rcases hms : m s with ⟨r, w, s'⟩
  rw [hms] at hm
  cases r with
  | error e => exact hm
  | ok a =>
    have hf := hm s'
    rcases hfs : f a s' with ⟨r', w', s''⟩
    rw [hfs] at hf
    cases r' with
    | error e => simpa only [hfs] using hf
    | ok b => simpa only [hfs] using hf

lemma post_silent (hm : Silent m) (hfailed : failed []) (hf : ∀ a, Post (f a) returned failed) :
    Post (m >>= f) returned failed := by
  refine post_bind fun s => ?_
  have hw := hm s
  rcases hms : m s with ⟨r, w, s'⟩
  rw [hms] at hw
  subst hw
  cases r with
  | error e => exact hfailed
  | ok a => exact hf a

lemma post_each {p : ε → Prop} {g : α → Serve ε σ Unit}
    (h : ∀ x, Post (g x) (fun _ w => ∀ ev ∈ w, p ev) (fun w => ∀ ev ∈ w, p ev)) (xs : List α) :
    Post (each g xs) (fun _ w => ∀ ev ∈ w, p ev) (fun w => ∀ ev ∈ w, p ev) := by
  have happend : ∀ {w w' : List ε}, (∀ ev ∈ w, p ev) → (∀ ev ∈ w', p ev) → ∀ ev ∈ w ++ w', p ev := by
    intro w w' hw hw' ev hev
    exact (List.mem_append.mp hev).elim (hw ev) (hw' ev)
  induction xs with
  | nil => exact fun _ _ hev => (by cases hev)
  | cons x xs ih =>
    refine post_bind fun s => ?_
    have hx := h x s
    rcases hgs : g x s with ⟨r, w, s'⟩
    rw [hgs] at hx
    cases r with
    | error e => exact hx
    | ok u =>
      intro s''
      have hxs := ih s''
      rcases hes : each g xs s'' with ⟨r', w', s₃⟩
      rw [hes] at hxs
      cases r' with
      | error e => exact happend hx hxs
      | ok u' => exact happend hx hxs

lemma each_write (g : α → ε) (xs : List α) (s : σ) :
    each (fun x => write (g x)) xs s = (.ok (), xs.map g, s) := by
  induction xs with
  | nil => rfl
  | cons x xs ih =>
    change (match write (g x) s with
      | (.error e, w, s') => (.error e, w, s')
      | (.ok _, w, s') => ((each (fun x => write (g x)) xs s').1,
        w ++ (each (fun x => write (g x)) xs s').2.1, (each (fun x => write (g x)) xs s').2.2) :
      Except String Unit × List ε × σ) = _
    simp only [write, ih]
    rfl

end Serve

end WalkieTalkie.Lib
