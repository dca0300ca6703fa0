import WalkieTalkie.Gateway.Markup

/-! Whatever a message says, the page renders it as markup of its own: every tag is one that the renderer
writes, links lead to web and mail addresses or nowhere, and blocks nest. -/

namespace WalkieTalkie.Gateway.Markdown

open Lib.Rewriting Token

variable {quotes : Prop} {ts us : List Token}

lemma write_cons (t : Token) (ts : List Token) : write (t :: ts) = t.render ++ write ts :=
  List.flatMap_cons

lemma write_append (ts us : List Token) : write (ts ++ us) = write ts ++ write us :=
  List.flatMap_append

lemma write_texts (l : Line) : write (l.map text) = l := by
  induction l with
  | nil => rfl
  | cons c l ih => exact congrArg (c :: ·) ih

lemma plainTexts_append (hts : PlainTexts quotes ts) (hus : PlainTexts quotes us) :
    PlainTexts quotes (ts ++ us) :=
  fun c hc => (List.mem_append.mp hc).elim (hts c) (hus c)

lemma plainTexts_texts {l : Line} (h : ∀ c ∈ l, Plain quotes c) : PlainTexts quotes (l.map text) := by
  intro c hc
  obtain ⟨d, hd, heq⟩ := List.mem_map.mp hc
  obtain rfl := Token.text.inj heq
  exact h d hd

lemma filter_texts {p : Token → Bool} (hp : ∀ c, p (text c) = false) (l : Line) :
    (l.map text).filter p = [] := by
  refine List.filter_eq_nil_iff.mpr fun t ht => ?_
  obtain ⟨c, _, rfl⟩ := List.mem_map.mp ht
  simp [hp]

/-- Text with links in it, and no other tags. -/
structure Linked (quotes : Prop) (ts : List Token) : Prop where
  texts : PlainTexts quotes ts
  inline : ∀ t ∈ ts, t.isInline = true
  unmarked : ∀ m, ts.filter (ofMark m) = []
  links : ∃ ss, ts.filter ofLink = anchors ss

lemma Linked.phrase (h : Linked quotes ts) : Phrase ts :=
  ⟨h.inline, fun m => ⟨0, h.unmarked m⟩, h.links⟩

lemma anchors_append (ss ss' : List (Option Scheme)) :
    anchors (ss ++ ss') = anchors ss ++ anchors ss' := by
  induction ss with
  | nil => rfl
  | cons s ss ih => cases s <;> simp only [List.cons_append, anchors, ih]

lemma Linked.append (h : Linked quotes ts) (h' : Linked quotes us) : Linked quotes (ts ++ us) := by
  obtain ⟨ss, hss⟩ := h.links
  obtain ⟨ss', hss'⟩ := h'.links
  refine ⟨plainTexts_append h.texts h'.texts, List.forall_mem_append.mpr ⟨h.inline, h'.inline⟩,
    fun m => ?_, ss ++ ss', ?_⟩
  · rw [List.filter_append, h.unmarked m, h'.unmarked m, List.nil_append]
  · rw [List.filter_append, hss, hss', anchors_append]

lemma linked_texts {l : Line} (h : ∀ c ∈ l, Plain quotes c) : Linked quotes (l.map text) where
  texts := plainTexts_texts h
  inline t ht := by
    obtain ⟨c, _, rfl⟩ := List.mem_map.mp ht
    rfl
  unmarked _ := filter_texts (fun _ => rfl) l
  links := ⟨[], filter_texts (fun _ => rfl) l⟩

lemma safeUrl_scheme (url : Line) : safeUrl url = ['#'] ∨
    ∃ (s : Scheme) (rest : Line), safeUrl url = s.val ++ rest ∧ ∀ c ∈ rest, c ∈ url := by
  rw [safeUrl]
  split
  · next h =>
    obtain ⟨p, hp, heq⟩ := List.any_eq_true.mp h
    have hmem : (url.take p.length).map Char.toLower ∈ schemes := by
      rwa [of_decide_eq_true heq]
    exact Or.inr ⟨⟨_, hmem⟩, url.drop p.length, (List.take_append_drop ..).symm,
      fun c hc => List.mem_of_mem_drop hc⟩
  · exact Or.inl rfl

lemma exists_nowhere {label url : Line} (hlabel : ∀ c ∈ label, Plain quotes c)
    (hsafe : safeUrl url = ['#']) : ∃ ts, write ts = anchor (label, url) ∧ Linked quotes ts := by
  have hlabel' := linked_texts hlabel
  refine ⟨nowhere :: (label.map text ++ [anchorEnd]), ?_, ?_, ?_, ?_, ?_⟩
  · have hend : write [anchorEnd] = anchorEnd.render := List.flatMap_singleton ..
    have hopen : nowhere.render = "<a href=\"".toList ++ ['#'] ++ hrefEnd.render := rfl
    have hanchor : anchor (label, url) = "<a href=\"".toList ++ safeUrl url ++ hrefEnd.render ++ label ++
        anchorEnd.render := rfl
    rw [write_cons, write_append, write_texts, hend, hanchor, hsafe, hopen]
    simp only [List.append_assoc]
  · intro c hc
    exact hlabel'.texts c (by simpa using hc)
  · intro t ht
    simp only [List.mem_cons, List.mem_append, List.not_mem_nil, or_false] at ht
    rcases ht with rfl | ht | rfl
    · rfl
    · exact hlabel'.inline t ht
    · rfl
  · intro m
    simp [ofMark, hlabel'.unmarked m]
  · have hnone : ∀ l : Line, (l.map text).filter ofLink = [] := filter_texts fun _ => rfl
    refine ⟨[none], ?_⟩
    simp [List.filter_cons, ofLink, hnone, anchors]

lemma exists_href {label url rest : Line} {s : Scheme} (hlabel : ∀ c ∈ label, Plain quotes c)
    (hrest : ∀ c ∈ rest, Plain quotes c) (hsafe : safeUrl url = s.val ++ rest) :
    ∃ ts, write ts = anchor (label, url) ∧ Linked quotes ts := by
  have htarget := linked_texts hrest
  have hlabel' := linked_texts hlabel
  refine ⟨href s :: (rest.map text ++ hrefEnd :: (label.map text ++ [anchorEnd])), ?_, ?_, ?_, ?_, ?_⟩
  · have hend : write [anchorEnd] = anchorEnd.render := List.flatMap_singleton ..
    rw [write_cons, write_append, write_cons, write_append, write_texts, write_texts, hend]
    have hanchor : anchor (label, url) = "<a href=\"".toList ++ safeUrl url ++ hrefEnd.render ++ label ++
        anchorEnd.render := rfl
    have hhref : (href s).render = "<a href=\"".toList ++ s.val := rfl
    rw [hanchor, hhref, hsafe]
    simp only [List.append_assoc]
  · intro c hc
    have hmem : text c ∈ rest.map text ∨ text c ∈ label.map text := by simpa using hc
    exact hmem.elim (htarget.texts c) (hlabel'.texts c)
  · intro t ht
    simp only [List.mem_cons, List.mem_append, List.not_mem_nil, or_false] at ht
    rcases ht with rfl | ht | rfl | ht | rfl
    · rfl
    · exact htarget.inline t ht
    · rfl
    · exact hlabel'.inline t ht
    · rfl
  · intro m
    simp [ofMark, htarget.unmarked m, hlabel'.unmarked m]
  · have hnone : ∀ l : Line, (l.map text).filter ofLink = [] := filter_texts fun _ => rfl
    refine ⟨[some s], ?_⟩
    simp [List.filter_cons, ofLink, hnone, anchors]

lemma exists_anchor {label url : Line} (hlabel : ∀ c ∈ label, Plain quotes c)
    (hurl : ∀ c ∈ url, Plain quotes c) : ∃ ts, write ts = anchor (label, url) ∧ Linked quotes ts := by
  rcases safeUrl_scheme url with hsafe | ⟨s, rest, hsafe, hrest⟩
  · exact exists_nowhere hlabel hsafe
  · exact exists_href hlabel (fun c hc => hurl c (hrest c hc)) hsafe

lemma exists_anchors {ps : List (Char ⊕ (Line × Line))}
    (hps : ∀ x ∈ ps, Sum.elim (Plain quotes)
      (fun b => (∀ c ∈ b.1, Plain quotes c) ∧ ∀ c ∈ b.2, Plain quotes c) x) (k : ℕ) :
    ∃ ts, write ts = fill (fun _ => anchor) k ps ∧ Linked quotes ts := by
  induction ps generalizing k with
  | nil =>
    have hnone : Linked quotes (([] : Line).map text) := linked_texts fun c hc => (by cases hc)
    exact ⟨[], rfl, hnone⟩
  | cons x ps ih =>
    obtain ⟨hx, hps'⟩ := List.forall_mem_cons.mp hps
    cases x with
    | inl c =>
      obtain ⟨ts, hwrite, hts⟩ := ih hps' k
      have hc : Linked quotes [text c] := linked_texts (List.forall_mem_singleton.mpr hx)
      exact ⟨[text c] ++ ts, congrArg (c :: ·) hwrite, hc.append hts⟩
    | inr b =>
      obtain ⟨ts, hwrite, hts⟩ := ih hps' (k + 1)
      obtain ⟨us, hwrite', hus⟩ := exists_anchor hx.1 hx.2
      refine ⟨us ++ ts, ?_, hus.append hts⟩
      rw [write_append, hwrite, hwrite']
      rfl

lemma link_plain {p : Char → Prop} {s : Line} {b : Line × Line} {n : ℕ} (hs : ∀ c ∈ s, p c)
    (h : link s = some (b, n)) : (∀ c ∈ b.1, p c) ∧ ∀ c ∈ b.2, p c := by
  obtain ⟨⟨label, k⟩, hlabel, hrest⟩ := Option.bind_eq_some_iff.mp h
  obtain ⟨⟨url, j⟩, hurl, heq⟩ := Option.map_eq_some_iff.mp hrest
  obtain ⟨rfl, _⟩ := Prod.mk.inj heq
  refine ⟨fun c hc => hs c (delimited_mem hlabel c hc), fun c hc => ?_⟩
  exact hs c (List.mem_of_mem_drop (delimited_mem hurl c hc))

lemma plain_nul : Plain quotes nul := ⟨by decide, by decide, fun h => absurd h (by decide)⟩

lemma plain_of_isDigit {c : Char} (h : c.isDigit = true) : Plain quotes c := by
  refine ⟨?_, ?_, fun hc => ?_⟩
  · rintro rfl
    exact absurd h (by decide)
  · rintro rfl
    exact absurd h (by decide)
  · subst hc
    exact absurd h (by decide)

lemma plain_placeholder (k : ℕ) :
    ∀ c ∈ nul :: ((Nat.repr k).toList ++ [nul]), Plain quotes c := by
  refine List.forall_mem_cons.mpr ⟨plain_nul, List.forall_mem_append.mpr ⟨fun c hc => ?_, ?_⟩⟩
  · rw [Nat.toList_repr] at hc
    exact plain_of_isDigit (Nat.isDigit_of_mem_toDigits (by decide) (by decide) hc)
  · exact List.forall_mem_singleton.mpr plain_nul

lemma plain_undefined : ∀ c ∈ "undefined".toList, Plain quotes c := by
  have hno : '<' ∉ "undefined".toList ∧ '>' ∉ "undefined".toList ∧ doubleQuote ∉ "undefined".toList := by
    decide
  exact fun c hc => ⟨fun h => hno.1 (h ▸ hc), fun h => hno.2.1 (h ▸ hc),
    fun h => absurd (h ▸ hc) hno.2.2⟩

lemma exists_wrapped {opening closing : Line} {inner : Char → Bool} {m : Mark}
    (hopen : opening ≠ [] ∧ ∀ c ∈ opening, IsDelimiter c)
    (hclose : closing ≠ [] ∧ ∀ c ∈ closing, IsDelimiter c) (ts : List Token) :
    ∃ us, Replaced (Marked quotes m) ts us ∧ write us =
      replaceAll (delimited opening inner closing) (wrap m.opening m.closing) (write ts) :=
  exists_marked hopen.1 hclose.1 hopen.2 hclose.2
    (fun run _ => ⟨run, rfl, rfl, fun _ hc => Or.inl hc⟩) ts

lemma exists_strong (quotes : Prop) (ts : List Token) : ∃ us, Replaced (Marked quotes .strong) ts us ∧
    write us = replaceAll strongRun (wrap "<strong>" "</strong>") (write ts) :=
  exists_wrapped ⟨by simp, by simp [IsDelimiter]⟩ ⟨by simp, by simp [IsDelimiter]⟩ ts

lemma exists_em (quotes : Prop) (ts : List Token) : ∃ us, Replaced (Marked quotes .em) ts us ∧
    write us = replaceAll emRun (wrap "<em>" "</em>") (write ts) :=
  exists_wrapped ⟨by simp, by simp [IsDelimiter]⟩ ⟨by simp, by simp [IsDelimiter]⟩ ts

lemma exists_del (quotes : Prop) (ts : List Token) : ∃ us, Replaced (Marked quotes .del) ts us ∧
    write us = replaceAll delRun (wrap "<del>" "</del>") (write ts) :=
  exists_wrapped ⟨by simp, by simp [IsDelimiter]⟩ ⟨by simp, by simp [IsDelimiter]⟩ ts

lemma exists_code {code : ℕ → Line} (hcode : ∀ n, ∀ c ∈ code n, Plain quotes c) (ts : List Token) :
    ∃ us, Replaced (Marked quotes .code) ts us ∧ write us =
      replaceAll placeholder (fun i => wrap "<code>" "</code>" (code (decimal i))) (write ts) := by
  refine exists_marked (by simp) (by simp) (by simp [IsDelimiter]) (by simp [IsDelimiter])
    (fun run hrun => ?_) ts
  refine ⟨(code (decimal (write run))).map text, ?_, ?_, fun c hc => Or.inr ?_⟩
  · rw [write_texts]
    rfl
  · rw [filter_texts fun _ => rfl]
    refine (List.filter_eq_nil_iff.mpr fun t ht => ?_).symm
    rw [texts_of_digits hrun t ht]
    decide
  · exact plainTexts_texts (hcode _) c hc

/-- Escaped text is rendered as a phrase. -/
theorem exists_inline {s : Line} (hs : ∀ c ∈ s, Plain quotes c) :
    ∃ ts, write ts = mdInline s ∧ Phrase ts ∧ PlainTexts quotes ts := by
  have hspans : ∀ x ∈ scan codeSpan 0 s, Sum.elim (Plain quotes) (fun b => ∀ c ∈ b, Plain quotes c) x :=
    of_mem_scan (fun s b n hs hm c hc => hs c (delimited_mem hm c hc)) hs 0
  let code : ℕ → Line := fun n => ((found (scan codeSpan 0 s))[n]?).getD "undefined".toList
  have hcode : ∀ n, ∀ c ∈ code n, Plain quotes c := by
    intro n
    cases hn : (found (scan codeSpan 0 s))[n]? with
    | none =>
      simp only [code, hn, Option.getD_none]
      exact plain_undefined
    | some b =>
      simp only [code, hn, Option.getD_some]
      exact of_mem_found hspans b (List.mem_of_getElem? hn)
  have hfilled := of_mem_fill (f := fun k _ => nul :: ((Nat.repr k).toList ++ [nul]))
    (fun k _ _ => plain_placeholder k) hspans 0
  obtain ⟨t₁, hw₁, h₁⟩ := exists_anchors
    (of_mem_scan (fun _ _ _ hs hm => link_plain hs hm) hfilled 0) 0
  obtain ⟨t₂, hr₂, hw₂⟩ := exists_strong quotes t₁
  obtain ⟨t₃, hr₃, hw₃⟩ := exists_em quotes t₂
  obtain ⟨t₄, hr₄, hw₄⟩ := exists_del quotes t₃
  obtain ⟨t₅, hr₅, hw₅⟩ := exists_code hcode t₄
  obtain ⟨h₂, hothers₂⟩ := h₁.phrase.marked (h₁.unmarked .strong) hr₂
  have hem : t₂.filter (ofMark .em) = [] := (hothers₂ _ (by decide)).trans (h₁.unmarked _)
  obtain ⟨h₃, hothers₃⟩ := h₂.marked hem hr₃
  have hdel : t₃.filter (ofMark .del) = [] := by
    rw [hothers₃ _ (by decide), hothers₂ _ (by decide), h₁.unmarked]
  obtain ⟨h₄, hothers₄⟩ := h₃.marked hdel hr₄
  have hspan : t₄.filter (ofMark .code) = [] := by
    rw [hothers₄ _ (by decide), hothers₃ _ (by decide), hothers₂ _ (by decide), h₁.unmarked]
  obtain ⟨h₅, _⟩ := h₄.marked hspan hr₅
  refine ⟨t₅, ?_, h₅, ?_⟩
  · rw [hw₅, hw₄, hw₃, hw₂, hw₁]
    rfl
  · have htexts := marked_texts hr₃ (marked_texts hr₂ h₁.texts)
    exact marked_texts hr₅ (marked_texts hr₄ htexts)

/-- A double quote in the message can still end the target of a link. -/
example : mdInline "[a](http:b\"c=d)".toList =
    "<a href=\"http:b\"c=d\" target=\"_blank\" rel=\"noreferrer\">a</a>".toList := by
  decide +kernel

/-- A string is markup of the renderer's own. -/
def Renders (quotes : Prop) (s : Line) : Prop :=
  ∃ ts, write ts = s ∧ Flow ts ∧ PlainTexts quotes ts

section

variable {s s' : Line}

lemma renders_nil : Renders quotes [] := ⟨[], rfl, .nil, fun _ hc => (by cases hc)⟩

lemma Renders.append (h : Renders quotes s) (h' : Renders quotes s') : Renders quotes (s ++ s') := by
  obtain ⟨ts, rfl, hflow, htexts⟩ := h
  obtain ⟨us, rfl, hflow', htexts'⟩ := h'
  exact ⟨ts ++ us, write_append ts us, hflow.append hflow', plainTexts_append htexts htexts'⟩

lemma Renders.element (e : Element) (h : Renders quotes s) :
    Renders quotes (e.opening.toList ++ (s ++ e.closing.toList)) := by
  obtain ⟨ts, rfl, hflow, htexts⟩ := h
  refine ⟨start e :: (ts ++ [stop e]), ?_, hflow.element e, fun c hc => htexts c (by simpa using hc)⟩
  have hstop : write [stop e] = (stop e).render := List.flatMap_singleton ..
  rw [write_cons, write_append, hstop]
  rfl

lemma renders_wrap (e : Element) (h : Renders quotes s) :
    Renders quotes (wrap e.opening e.closing s) := by
  rw [wrap, List.append_assoc]
  exact h.element e

lemma renders_flatMap {α : Type} {xs : List α} {f : α → Line} (h : ∀ x ∈ xs, Renders quotes (f x)) :
    Renders quotes (xs.flatMap f) := by
  induction xs with
  | nil => exact renders_nil
  | cons x xs ih =>
    obtain ⟨hx, hxs⟩ := List.forall_mem_cons.mp h
    rw [List.flatMap_cons]
    exact hx.append (ih hxs)

end

lemma mem_replaceChar {c d : Char} {out : String} {s : Line} (h : d ∈ replaceChar c out s) :
    (d ∈ s ∧ d ≠ c) ∨ d ∈ out.toList := by
  obtain ⟨x, hx, hd⟩ := List.mem_flatMap.mp h
  split at hd
  · exact Or.inr hd
  · next hne =>
    rw [List.mem_singleton.mp hd]
    exact Or.inl ⟨hx, hne⟩

lemma plain_mdEscape {s : Line} (hs : ∀ c ∈ s, c = doubleQuote → quotes) :
    ∀ c ∈ mdEscape s, Plain quotes c := by
  have hentity : ∀ out ∈ ["&amp;", "&lt;", "&gt;"], ∀ c ∈ out.toList, Plain quotes c := by
    have hno : ∀ out ∈ ["&amp;", "&lt;", "&gt;"],
        '<' ∉ out.toList ∧ '>' ∉ out.toList ∧ doubleQuote ∉ out.toList := by decide
    intro out hout c hc
    obtain ⟨hlt, hgt, hquote⟩ := hno out hout
    exact ⟨fun h => hlt (h ▸ hc), fun h => hgt (h ▸ hc), fun h => absurd (h ▸ hc) hquote⟩
  intro c hc
  rcases mem_replaceChar hc with ⟨hc, hgt⟩ | hout
  · rcases mem_replaceChar hc with ⟨hc, hlt⟩ | hout
    · rcases mem_replaceChar hc with ⟨hc, _⟩ | hout
      · exact ⟨hlt, hgt, hs c hc⟩
      · exact hentity _ (by simp) c hout
    · exact hentity _ (by simp) c hout
  · exact hentity _ (by simp) c hout

lemma renders_inline {s : Line} (hs : ∀ c ∈ s, c = doubleQuote → quotes) : Renders quotes (inline s) := by
  obtain ⟨ts, hwrite, hphrase, htexts⟩ := exists_inline (plain_mdEscape hs)
  exact ⟨ts, hwrite, .phrase hphrase, htexts⟩

lemma renders_fenced {s : Line} (hs : ∀ c ∈ s, c = doubleQuote → quotes) :
    Renders quotes (wrap "<code>" "</code>" (mdEscape s)) := by
  have hplain := linked_texts (plain_mdEscape hs)
  have hmarked : Replaced (Marked quotes .code) ((mdEscape s).map text)
      (openMark .code :: ((mdEscape s).map text ++ [closeMark .code]) ++ []) := by
    rw [← List.append_nil ((mdEscape s).map text)]
    refine .rewrite ⟨(mdEscape s).map text, ?_, rfl, fun _ hc => Or.inl hc⟩ .nil
    rw [List.append_nil]
  rw [List.append_nil] at hmarked
  obtain ⟨hphrase, _⟩ := hplain.phrase.marked (hplain.unmarked _) hmarked
  refine ⟨_, ?_, .phrase hphrase, marked_texts hmarked hplain.texts⟩
  have hclose : write [closeMark .code] = (closeMark .code).render := List.flatMap_singleton ..
  rw [write_cons, write_append, hclose, write_texts, wrap, List.append_assoc]
  rfl

def AllIn (p : Char → Prop) (ls : List Line) : Prop := ∀ l ∈ ls, ∀ c ∈ l, p c

def Block.All (p : Char → Prop) : Block → Prop
  | .code ls | .quote ls | .bullets ls | .numbers ls | .para ls => AllIn p ls
  | .heading level title => (1 ≤ level ∧ level ≤ 6) ∧ ∀ c ∈ title, p c
  | .table head body => AllIn p head ∧ ∀ r ∈ body, AllIn p r
  | .rule | .blank => True

lemma all_joinLines {p : Char → Prop} (hp : p newline) {ls : List Line} (h : AllIn p ls) :
    ∀ c ∈ joinLines ls, p c := by
  induction ls with
  | nil => exact fun c hc => (by cases hc)
  | cons l ls ih =>
    obtain ⟨hl, hls⟩ := List.forall_mem_cons.mp h
    cases ls with
    | nil =>
      rw [joinLines, List.intercalate_singleton]
      exact hl
    | cons l' ls =>
      rw [joinLines, List.intercalate_cons_cons]
      refine List.forall_mem_append.mpr ⟨List.forall_mem_append.mpr ⟨hl, ?_⟩, ih hls⟩
      exact List.forall_mem_singleton.mpr hp

lemma renders_items {ls : List Line} (h : AllIn (fun c => c = doubleQuote → quotes) ls) :
    Renders quotes (ls.flatMap item) :=
  renders_flatMap fun l hl => renders_wrap .li (renders_inline (h l hl))

lemma wrap_wrap (o o' c c' : String) (s : Line) : wrap (o ++ o') (c' ++ c) s = wrap o c (wrap o' c' s) := by
  simp only [wrap, String.toList_append, List.append_assoc]

lemma table_layout (t t' h h' r r' b b' : String) (head body : Line) :
    (t ++ (h ++ r)).toList ++ head ++ wrap (r' ++ (h' ++ b)) (b' ++ t') body =
      wrap t t' (wrap h h' (wrap r r' head) ++ wrap b b' body) := by
  simp only [wrap, String.toList_append, List.append_assoc]

lemma renders_table {head : List Line} {body : List (List Line)}
    (hhead : AllIn (fun c => c = doubleQuote → quotes) head)
    (hbody : ∀ r ∈ body, AllIn (fun c => c = doubleQuote → quotes) r) (quotation : Line) :
    Renders quotes ((Block.table head body).html quotation) := by
  have hcells : Renders quotes (head.flatMap fun c => wrap "<th>" "</th>" (inline c)) :=
    renders_flatMap fun l hl => renders_wrap .th (renders_inline (hhead l hl))
  have hrows : Renders quotes (body.flatMap tableRow) :=
    renders_flatMap fun r hr => renders_wrap .tr
      (renders_flatMap fun l hl => renders_wrap .td (renders_inline (hbody r hr l hl)))
  have htable := renders_wrap .table
    ((renders_wrap .thead (renders_wrap .tr hcells)).append (renders_wrap .tbody hrows))
  have hopen : "<table class=\"md-table\"><thead><tr>" =
      Element.table.opening ++ (Element.thead.opening ++ Element.tr.opening) := by decide
  have hmiddle : "</tr></thead><tbody>" =
      Element.tr.closing ++ (Element.thead.closing ++ Element.tbody.opening) := by decide
  have hclose : "</tbody></table>" = Element.tbody.closing ++ Element.table.closing := by decide
  have hhtml : (Block.table head body).html quotation =
      "<table class=\"md-table\"><thead><tr>".toList ++
        head.flatMap (fun c => wrap "<th>" "</th>" (inline c)) ++
        wrap "</tr></thead><tbody>" "</tbody></table>" (body.flatMap tableRow) := rfl
  rw [hhtml, hopen, hmiddle, hclose, table_layout]
  exact htable

lemma Block.renders {b : Block} (hb : b.All fun c => c = doubleQuote → quotes) {quotation : Line}
    (hq : Renders quotes quotation) : Renders quotes (b.html quotation) := by
  have hnewline : newline = doubleQuote → quotes := fun h => absurd h (by decide)
  cases b with
  | code ls =>
    have hpre := renders_wrap .pre (renders_fenced (all_joinLines hnewline hb))
    have hopen : "<pre class=\"code\"><code>" = Element.pre.opening ++ "<code>" := by decide
    have hclose : "</code></pre>" = "</code>" ++ Element.pre.closing := by decide
    have hhtml : (Block.code ls).html quotation =
        wrap "<pre class=\"code\"><code>" "</code></pre>" (mdEscape (joinLines ls)) := rfl
    rw [hhtml, hopen, hclose, wrap_wrap]
    exact hpre
  | heading level title =>
    obtain ⟨⟨hpos, hle⟩, htitle⟩ := hb
    have hwrap := renders_wrap (.heading ⟨level - 1, by omega⟩) (renders_inline htitle)
    rwa [Element.opening, Element.closing, Nat.sub_add_cancel hpos] at hwrap
  | rule =>
    refine ⟨[.rule], List.flatMap_singleton .., .rule, fun c hc => ?_⟩
    exact absurd (List.mem_singleton.mp hc) (by simp)
  | table head body => exact renders_table hb.1 hb.2 quotation
  | quote ls => exact renders_wrap .blockquote hq
  | bullets ls => exact renders_wrap .ul (renders_items hb)
  | numbers ls => exact renders_wrap .ol (renders_items hb)
  | blank => exact renders_nil
  | para ls =>
    refine renders_wrap .p (renders_inline fun c hc => ?_)
    rcases mem_replaceChar hc with ⟨hc, _⟩ | hout
    · exact all_joinLines hnewline hb c hc
    · rintro rfl
      exact absurd hout (by decide)

section

variable {l x : Line} {ls : List Line}

lemma subset_intercalate (a : Char) (h : x ∈ ls) : x ⊆ [a].intercalate ls := by
  induction ls with
  | nil => cases h
  | cons l ls ih =>
    cases ls with
    | nil =>
      rw [List.mem_singleton.mp h, List.intercalate_singleton]
      exact List.Subset.refl _
    | cons l' ls =>
      rw [List.intercalate_cons_cons, List.append_assoc]
      rcases List.mem_cons.mp h with rfl | hx
      · exact List.subset_append_left ..
      · exact fun c hc => List.mem_append_right _ (List.mem_append_right _ (ih hx hc))

lemma subset_splitOn {a : Char} (h : x ∈ l.splitOn a) : x ⊆ l := by
  have hsub := subset_intercalate a h
  rwa [List.intercalate_splitOn] at hsub

lemma trimStart_subset (l : Line) : trimStart l ⊆ l := (List.dropWhile_suffix _).subset

lemma trim_subset (l : Line) : trim l ⊆ l := by
  intro c hc
  have hrev := trimStart_subset _ (List.mem_reverse.mp hc)
  exact trimStart_subset l (List.mem_reverse.mp hrev)

lemma dropBar_subset (l : Line) : dropBar l ⊆ l := by
  have htrim := trimStart_subset l
  unfold dropBar
  split
  · next rest hrest =>
    rw [hrest] at htrim
    exact fun c hc => htrim (List.mem_cons_of_mem _ hc)
  · exact List.Subset.refl l

lemma row_subset (h : x ∈ row l) : x ⊆ l := by
  obtain ⟨cell, hcell, rfl⟩ := List.mem_map.mp h
  intro c hc
  have hrev := List.mem_reverse.mp (subset_splitOn hcell (trim_subset cell hc))
  exact dropBar_subset l (List.mem_reverse.mp (dropBar_subset _ hrev))

lemma heading_some {level : ℕ} (h : heading l = some (level, x)) :
    (1 ≤ level ∧ level ≤ 6) ∧ x ⊆ l := by
  unfold heading at h
  dsimp only at h
  split at h
  · next hcond =>
    obtain ⟨rfl, rfl⟩ := Prod.mk.inj (Option.some.inj h)
    simp only [isHash, Bool.and_eq_true, decide_eq_true_eq] at hcond
    exact ⟨hcond.1.1, fun c hc => List.mem_of_mem_drop (trimStart_subset _ hc)⟩
  · cases h

lemma quoted_subset (h : quoted l = some x) : x ⊆ l := by
  have htrim := trimStart_subset l
  unfold quoted at h
  split at h
  · next rest hrest =>
    rw [hrest] at htrim
    obtain rfl := Option.some.inj h
    refine fun c hc => htrim (List.mem_cons_of_mem _ ?_)
    split at hc
    · exact List.mem_of_mem_drop hc
    · exact hc
  · cases h

lemma bullet_subset (h : bullet l = some x) : x ⊆ l := by
  have htrim := trimStart_subset l
  unfold bullet at h
  split at h
  · next d rest hrest =>
    rw [hrest] at htrim
    split at h
    · obtain rfl := Option.some.inj h
      exact fun c hc => htrim (List.mem_cons_of_mem _ (trimStart_subset _ hc))
    · cases h
  · cases h

lemma numbered_subset (h : numbered l = some x) : x ⊆ l := by
  have htrim := trimStart_subset l
  unfold numbered at h
  dsimp only at h
  split at h
  · next rest hrest =>
    have hdigits : '.' :: rest ⊆ trimStart l := hrest ▸ (List.dropWhile_suffix _).subset
    split at h
    · obtain rfl := Option.some.inj h
      exact fun c hc => htrim (hdigits (List.mem_cons_of_mem _ (trimStart_subset _ hc)))
    · cases h
  · cases h

variable {p : Char → Prop}

lemma AllIn.of_subset {ls' : List Line} (h : AllIn p ls) (hsub : ls' ⊆ ls) : AllIn p ls' :=
  fun l hl => h l (hsub hl)

lemma all_spanMap {f : Line → Option Line} (hf : ∀ l x, f l = some x → x ⊆ l) (h : AllIn p ls) :
    AllIn p (spanMap f ls).1 := by
  induction ls with
  | nil => exact fun l hl => (by cases hl)
  | cons l ls ih =>
    obtain ⟨hl, hls⟩ := List.forall_mem_cons.mp h
    rw [spanMap]
    split
    · next x hx => exact List.forall_mem_cons.mpr ⟨fun c hc => hl c (hf l x hx hc), ih hls⟩
    · exact fun l hl => (by cases hl)

lemma all_takePara (h : AllIn p ls) : AllIn p (takePara ls).1 := by
  induction ls with
  | nil => exact fun l hl => (by cases hl)
  | cons l ls ih =>
    obtain ⟨hl, hls⟩ := List.forall_mem_cons.mp h
    rw [takePara]
    split
    · exact fun l hl => (by cases hl)
    · exact List.forall_mem_cons.mpr ⟨hl, ih hls⟩

lemma all_takeBlock {line : Line} (hline : ∀ c ∈ line, p c) {rest : List Line} (hrest : AllIn p rest) :
    (takeBlock line rest).1.All p := by
  have hspan : ∀ f : Line → Option Line, (∀ l x, f l = some x → x ⊆ l) → ∀ x, f line = some x →
      AllIn p (x :: (spanMap f rest).1) := fun f hf x hx =>
    List.forall_mem_cons.mpr ⟨fun c hc => hline c (hf line x hx hc), all_spanMap hf hrest⟩
  unfold takeBlock
  split
  · exact hrest.of_subset (List.takeWhile_subset _)
  · split
    · next level title hheading =>
      obtain ⟨hlevel, hsub⟩ := heading_some hheading
      exact ⟨hlevel, fun c hc => hline c (hsub hc)⟩
    · split
      · trivial
      · split
        · refine ⟨fun l hl c hc => hline c (row_subset hl hc), fun r hr l hl c hc => ?_⟩
          obtain ⟨r', hr', rfl⟩ := List.mem_map.mp hr
          exact hrest r' (List.mem_of_mem_drop (List.takeWhile_subset _ hr')) c (row_subset hl hc)
        · split
          · next hq => exact hspan quoted (fun _ _ => quoted_subset) _ hq
          · next hb => exact hspan bullet (fun _ _ => bullet_subset) _ hb
          · next hn => exact hspan numbered (fun _ _ => numbered_subset) _ hn
          · split
            · trivial
            · exact List.forall_mem_cons.mpr ⟨hline, all_takePara hrest⟩

lemma all_unixLines (hp : p newline) {s : Line} (h : ∀ c ∈ s, p c) : ∀ c ∈ unixLines s, p c := by
  fun_induction unixLines s with
  | _ => simp_all

lemma all_splitLines (hp : p newline) {s : Line} (h : ∀ c ∈ s, p c) : AllIn p (splitLines s) :=
  fun _ hl c hc => all_unixLines hp h c (subset_splitOn hl hc)

end

lemma renders_lines (lines : List Line) (h : AllIn (fun c => c = doubleQuote → quotes) lines) :
    Renders quotes (renderLines lines) := by
  have hnewline : newline = doubleQuote → quotes := fun h => absurd h (by decide)
  fun_induction renderLines lines with
  | case1 => exact renders_nil
  | case2 line rest quotation ih ih' =>
    obtain ⟨hline, hrest⟩ := List.forall_mem_cons.mp h
    have hblock := all_takeBlock hline hrest
    have hquotation : Renders quotes quotation := by
      unfold quotation
      split
      · next q hq =>
        split
        · exact renders_nil
        · rw [hq] at hblock
          exact ih q hq (all_splitLines hnewline (all_joinLines hnewline hblock))
      · exact renders_nil
    exact (Block.renders hblock hquotation).append
      (ih' (AllIn.of_subset hrest (takeBlock_suffix line rest).subset))

/-- A message is rendered with the tags of the renderer only, whose blocks nest and whose links have a
scheme from the list; and a double quote in its text was in the message. -/
theorem markdown_is_safe (src : Line) : ∃ ts, renderMarkdown src = write ts ∧ Flow ts ∧
    PlainTexts (doubleQuote ∈ src) ts := by
  have hrenders : Renders (doubleQuote ∈ src) (renderMarkdown src) := by
    rw [renderMarkdown]
    split
    · exact renders_nil
    · refine renders_lines _ (all_splitLines (fun h => absurd h (by decide)) fun c hc => ?_)
      rintro rfl
      exact hc
  obtain ⟨ts, hwrite, hflow, htexts⟩ := hrenders
  exact ⟨ts, hwrite.symm, hflow, htexts⟩

end WalkieTalkie.Gateway.Markdown
