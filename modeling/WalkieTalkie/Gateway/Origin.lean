import Mathlib.Data.List.Infix
import WalkieTalkie.Proto

/-! The origin guard of the web gateway. It compares the beginning of the header with four texts and
lets a request pass whose header is absent or not visible ASCII; an origin is a scheme, a host and
perhaps a port, and nothing else. -/

namespace WalkieTalkie.Gateway

open Proto

def ascii (text : String) : Bytes := text.toList.map fun c => c.toNat.toUInt8

abbrev Headers := List (String × Bytes)

structure Response where
  status : ℕ
  body : String
deriving DecidableEq

def originOf (req : Headers) : Option Bytes := (req.find? fun header => header.1 = "origin").map Prod.snd

def visibleAscii (b : UInt8) : Bool := 32 ≤ b && b < 127 || b = 9

def toStr (value : Bytes) : Option Bytes := if value.all visibleAscii then some value else none

def allowed (origin : Bytes) : Bool :=
  (ascii "chrome-extension://").isPrefixOf origin || (ascii "moz-extension://").isPrefixOf origin ||
    (ascii "http://127.0.0.1").isPrefixOf origin || (ascii "http://localhost").isPrefixOf origin

/-- The request that is passed on, or the answer to a request that is not. -/
def originGuard (req : Headers) : Except Response Headers :=
  match (originOf req).bind toStr with
  | some origin => if allowed origin then .ok req else .error ⟨403, "forbidden origin"⟩
  | none => .ok req

def digit (b : UInt8) : Bool := 48 ≤ b && b ≤ 57

def letter (b : UInt8) : Bool := 65 ≤ b && b ≤ 90 || 97 ≤ b && b ≤ 122

def hostByte (b : UInt8) : Bool := digit b || letter b || (ascii "-._~%!$&'()*+,;=").contains b

def decimal (digits : Bytes) : ℕ := digits.foldl (fun n b => 10 * n + (b.toNat - 48)) 0

def isPort : Bytes → Bool
  | [] => true
  | colon :: digits => colon = 58 && digits ≠ [] && digits.all digit && decimal digits ≤ 65535

def HostPort (rest : Bytes) : Prop :=
  ∃ host port, host ≠ [] ∧ host.all hostByte = true ∧ isPort port = true ∧ rest = host ++ port

def Admissible (value : Bytes) : Prop :=
  (∃ rest, HostPort rest ∧ value = ascii "chrome-extension://" ++ rest) ∨
    (∃ rest, HostPort rest ∧ value = ascii "moz-extension://" ++ rest) ∨
    (∃ port, isPort port = true ∧ value = ascii "http://127.0.0.1" ++ port) ∨
    ∃ port, isPort port = true ∧ value = ascii "http://localhost" ++ port

/-- Visible ASCII, and what follows the text that the guard looks for completes an origin. -/
structure Complete (value : Bytes) : Prop where
  visible : value.all visibleAscii = true
  chrome : ∀ rest, value = ascii "chrome-extension://" ++ rest → HostPort rest
  moz : ∀ rest, value = ascii "moz-extension://" ++ rest → HostPort rest
  loopback : ∀ rest, value = ascii "http://127.0.0.1" ++ rest → isPort rest = true
  localhost : ∀ rest, value = ascii "http://localhost" ++ rest → isPort rest = true

variable {req : Headers} {value rest : Bytes}

lemma visible_of_host {b : UInt8} (h : hostByte b = true) : visibleAscii b = true := by
  have hall : ∀ n : Fin 256, hostByte (UInt8.ofNat n) = true → visibleAscii (UInt8.ofNat n) = true := by
    decide +kernel
  have hb := hall ⟨b.toNat, b.toNat_lt⟩
  rw [UInt8.ofNat_toNat] at hb
  exact hb h

lemma visible_hosts {bytes : Bytes} (h : bytes.all hostByte = true) :
    bytes.all visibleAscii = true := by
  rw [List.all_eq_true] at h ⊢
  exact fun b hb => visible_of_host (h b hb)

lemma visible_port (h : isPort rest = true) : rest.all visibleAscii = true := by
  cases rest with
  | nil => rfl
  | cons colon digits =>
    simp only [isPort, Bool.and_eq_true, decide_eq_true_eq] at h
    obtain ⟨⟨⟨rfl, _⟩, hdigits⟩, _⟩ := h
    rw [List.all_cons, Bool.and_eq_true]
    refine ⟨rfl, visible_hosts ?_⟩
    rw [List.all_eq_true] at hdigits ⊢
    intro b hb
    rw [hostByte, hdigits b hb]
    rfl

lemma visible_hostPort (h : HostPort rest) : rest.all visibleAscii = true := by
  obtain ⟨host, port, _, hhost, hport, rfl⟩ := h
  rw [List.all_append, visible_hosts hhost, visible_port hport]
  rfl

lemma visible_append {text : Bytes} (htext : text.all visibleAscii = true)
    (hrest : rest.all visibleAscii = true) : (text ++ rest).all visibleAscii = true := by
  rw [List.all_append, htext, hrest]
  rfl

lemma Admissible.visible (h : Admissible value) : value.all visibleAscii = true := by
  rcases h with ⟨rest, hrest, rfl⟩ | ⟨rest, hrest, rfl⟩ | ⟨port, hport, rfl⟩ | ⟨port, hport, rfl⟩
  · exact visible_append (by decide +kernel) (visible_hostPort hrest)
  · exact visible_append (by decide +kernel) (visible_hostPort hrest)
  · exact visible_append (by decide +kernel) (visible_port hport)
  · exact visible_append (by decide +kernel) (visible_port hport)

lemma begins_apart {text text' : Bytes} {rest rest' : Bytes}
    (hapart : ¬ text <+: text' ∧ ¬ text' <+: text) : text ++ rest ≠ text' ++ rest' := by
  intro heq
  have hbegins : text' <+: text ++ rest := by
    rw [heq]
    exact List.prefix_append _ _
  rcases List.prefix_or_prefix_of_prefix (List.prefix_append text rest) hbegins with h | h
  · exact hapart.1 h
  · exact hapart.2 h

lemma Admissible.chrome (h : Admissible (ascii "chrome-extension://" ++ rest)) : HostPort rest := by
  rcases h with ⟨rest', hrest, heq⟩ | ⟨rest', _, heq⟩ | ⟨port, _, heq⟩ | ⟨port, _, heq⟩
  · exact List.append_cancel_left heq ▸ hrest
  · exact absurd heq (begins_apart (by decide +kernel))
  · exact absurd heq (begins_apart (by decide +kernel))
  · exact absurd heq (begins_apart (by decide +kernel))

lemma Admissible.moz (h : Admissible (ascii "moz-extension://" ++ rest)) : HostPort rest := by
  rcases h with ⟨rest', _, heq⟩ | ⟨rest', hrest, heq⟩ | ⟨port, _, heq⟩ | ⟨port, _, heq⟩
  · exact absurd heq (begins_apart (by decide +kernel))
  · exact List.append_cancel_left heq ▸ hrest
  · exact absurd heq (begins_apart (by decide +kernel))
  · exact absurd heq (begins_apart (by decide +kernel))

lemma Admissible.loopback (h : Admissible (ascii "http://127.0.0.1" ++ rest)) :
    isPort rest = true := by
  rcases h with ⟨rest', _, heq⟩ | ⟨rest', _, heq⟩ | ⟨port, hport, heq⟩ | ⟨port, _, heq⟩
  · exact absurd heq (begins_apart (by decide +kernel))
  · exact absurd heq (begins_apart (by decide +kernel))
  · exact List.append_cancel_left heq ▸ hport
  · exact absurd heq (begins_apart (by decide +kernel))

lemma Admissible.localhost (h : Admissible (ascii "http://localhost" ++ rest)) :
    isPort rest = true := by
  rcases h with ⟨rest', _, heq⟩ | ⟨rest', _, heq⟩ | ⟨port, _, heq⟩ | ⟨port, hport, heq⟩
  · exact absurd heq (begins_apart (by decide +kernel))
  · exact absurd heq (begins_apart (by decide +kernel))
  · exact absurd heq (begins_apart (by decide +kernel))
  · exact List.append_cancel_left heq ▸ hport

lemma begins_iff {text : Bytes} : text.isPrefixOf value = true ↔ ∃ rest, value = text ++ rest := by
  rw [List.isPrefixOf_iff_prefix]
  constructor
  · rintro ⟨rest, rfl⟩
    exact ⟨rest, rfl⟩
  · rintro ⟨rest, rfl⟩
    exact ⟨rest, rfl⟩

lemma allowed_iff : allowed value = true ↔
    (∃ rest, value = ascii "chrome-extension://" ++ rest) ∨
      (∃ rest, value = ascii "moz-extension://" ++ rest) ∨
      (∃ rest, value = ascii "http://127.0.0.1" ++ rest) ∨
      ∃ rest, value = ascii "http://localhost" ++ rest := by
  rw [allowed, Bool.or_eq_true, Bool.or_eq_true, Bool.or_eq_true, begins_iff, begins_iff, begins_iff,
    begins_iff, or_assoc, or_assoc]

lemma originGuard_iff (h : originOf req = some value) :
    originGuard req = .ok req ↔ (value.all visibleAscii = true → allowed value = true) := by
  rw [originGuard, h, Option.bind_some, toStr]
  cases value.all visibleAscii with
  | true => cases hallowed : allowed value <;> simp [hallowed]
  | false => simp

lemma Complete.admissible (h : Complete value) (hallowed : allowed value = true) :
    Admissible value := by
  rcases allowed_iff.mp hallowed with ⟨rest, heq⟩ | ⟨rest, heq⟩ | ⟨rest, heq⟩ | ⟨rest, heq⟩
  · exact Or.inl ⟨rest, h.chrome rest heq, heq⟩
  · exact Or.inr (Or.inl ⟨rest, h.moz rest heq, heq⟩)
  · exact Or.inr (Or.inr (Or.inl ⟨rest, h.loopback rest heq, heq⟩))
  · exact Or.inr (Or.inr (Or.inr ⟨rest, h.localhost rest heq, heq⟩))

lemma complete_of_admissible (hvisible : value.all visibleAscii = true)
    (h : allowed value = true → Admissible value) : Complete value where
  visible := hvisible
  chrome rest heq := by
    have hadmissible := h (allowed_iff.mpr (Or.inl ⟨rest, heq⟩))
    rw [heq] at hadmissible
    exact hadmissible.chrome
  moz rest heq := by
    have hadmissible := h (allowed_iff.mpr (Or.inr (Or.inl ⟨rest, heq⟩)))
    rw [heq] at hadmissible
    exact hadmissible.moz
  loopback rest heq := by
    have hadmissible := h (allowed_iff.mpr (Or.inr (Or.inr (Or.inl ⟨rest, heq⟩))))
    rw [heq] at hadmissible
    exact hadmissible.loopback
  localhost rest heq := by
    have hadmissible := h (allowed_iff.mpr (Or.inr (Or.inr (Or.inr ⟨rest, heq⟩))))
    rw [heq] at hadmissible
    exact hadmissible.localhost

/-- The guard admits what it should exactly when a header is visible ASCII and its beginning is not
mistaken for the whole of it. -/
theorem originGuard_admits_iff_complete :
    (originGuard req = .ok req → ∀ value, originOf req = some value → Admissible value) ↔
      ∀ value, originOf req = some value → Complete value := by
  constructor
  · intro h value horigin
    have hpass := @originGuard_iff req value horigin
    refine complete_of_admissible ?_ fun hallowed => h (hpass.mpr fun _ => hallowed) value horigin
    by_contra hvisible
    exact hvisible (h (hpass.mpr fun hv => absurd hv hvisible) value horigin).visible
  · intro h hpass value horigin
    have hcomplete := h value horigin
    exact hcomplete.admissible ((originGuard_iff horigin).mp hpass hcomplete.visible)

def longHost : Headers := [("host", ascii "127.0.0.1:8787"), ("origin", ascii "http://localhost.example")]

theorem longer_host_is_let_through :
    originGuard longHost = .ok longHost ∧ originOf longHost = some (ascii "http://localhost.example") ∧
      ¬ Admissible (ascii "http://localhost.example") := by
  refine ⟨by decide +kernel, by decide +kernel, fun h => ?_⟩
  have hsplit : ascii "http://localhost.example" = ascii "http://localhost" ++ ascii ".example" := by
    decide +kernel
  rw [hsplit] at h
  exact absurd h.localhost (by decide +kernel)

end WalkieTalkie.Gateway
