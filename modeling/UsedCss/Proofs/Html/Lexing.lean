import UsedCss.Proofs.Html.Markup
/-!
# Reading plain tags

What the lexer makes of the tags of plain markup. Most characters only change its state (`Reads`); the
last one of a tag makes it a token.
-/

namespace UsedCss.Html

open UsedCss.Text

namespace Lexer

variable {lx lx' lx'' : Lexer} {c : Char} {cs ds : List Char}

/-- Some characters only lead the lexer from one state to another. -/
def Reads (lx : Lexer) (cs : List Char) (lx' : Lexer) : Prop :=
  ∀ b rest, parseFrom lx b (cs ++ rest) = parseFrom lx' b rest

theorem Reads.trans (h : lx.Reads cs lx') (h' : lx'.Reads ds lx'') : lx.Reads (cs ++ ds) lx'' := by
  intro b rest
  rw [List.append_assoc, h, h']

/-- One step that makes no token. -/
theorem reads_char (hskip : lx.skip = 0) (hout : lx'.out = [])
    (hstep : ∀ foreign rest, lx.step foreign c rest = lx') : lx.Reads [c] lx' := by
  intro b rest
  have hnone : ({ lx' with out := [] } : Lexer) = lx' := by rw [← hout]
  rw [List.singleton_append, parseFrom, if_pos hskip, hstep, deliver, hnone, hout]
  rfl

/-- One step that makes a token which the builder takes and is done with. -/
theorem parseFrom_token {b b' : Builder} {t : Token} (hskip : lx.skip = 0) (hout : lx'.out = [])
    (hstep : ∀ foreign rest, lx.step foreign c rest = lx'.emit t) (h : b.take t = (b', .done))
    (rest : List Char) : parseFrom lx b (c :: rest) = parseFrom lx' b' rest := by
  have hnone : ({ lx'.emit t with out := [] } : Lexer) = lx' := by rw [emit, ← hout]
  rw [parseFrom, if_pos hskip, hstep, deliver, hnone, emit, hout]
  simp only [List.reverse_singleton, List.foldl_cons, List.foldl_nil, h]
  rfl

/-- Characters that are gathered one by one. -/
theorem reads_all {gathered : String → Lexer}
    (h : ∀ c ∈ cs, ∀ s, (gathered s).Reads [c] (gathered (s.push c))) (s : String) :
    (gathered s).Reads cs (gathered (cs.foldl String.push s)) := by
  induction cs generalizing s with
  | nil => exact fun b rest => rfl
  | cons c cs ih =>
    obtain ⟨hc, hcs⟩ := List.forall_mem_cons.1 h
    exact (hc s).trans (ih hcs (s.push c))

theorem foldl_push (cs : List Char) : cs.foldl String.push "" = String.ofList cs := by
  have hpush : ∀ s : String, (cs.foldl String.push s).toList = s.toList ++ cs := by
    induction cs with
    | nil => simp
    | cons c cs ih => simp [ih]
  rw [← String.toList_inj]
  simp [hpush]

theorem heed_of_not_bad (h : isBad c = false) (lx : Lexer) : lx.heed c = lx := by
  rw [heed, if_neg (by simp [h])]

/-! ## States inside a tag -/

/-- Between tags. -/
def resting (kind : TagKind) (last : Option String) : Lexer := { tagKind := kind, lastStart := last }

/-- In the name of a tag. -/
def inName (kind : TagKind) (last : Option String) (name : String) : Lexer :=
  { resting kind last with state := .tagName, tagName := name }

/-- In the name of the first attribute of a start tag. -/
def inFirstAttribute (last : Option String) (tag name : String) : Lexer :=
  { resting .start last with state := .attributeName, tagName := tag, attributeName := name }

/-- In its value. -/
def inFirstValue (last : Option String) (tag name value : String) : Lexer :=
  { resting .start last with
    state := .attributeValue .double, tagName := tag, attributeName := name, attributeValue := value }

/-- Nothing in a name is special about small letters. -/
theorem plain_of_isLower (hc : c.isLower = true) :
    isBad c = false ∧ isTagSpace c = false ∧ c ∉ ['/', '>', '=', '\x00', '"', '\'', '<'] ∧ c.toLower = c := by
  have hlt : c.toNat < 128 := lt_of_isClassChar (by simp [isClassChar, Char.isAlphanum, Char.isAlpha, hc])
  revert hc
  refine of_ascii (P := fun c => c.isLower = true → isBad c = false ∧ isTagSpace c = false ∧
    c ∉ ['/', '>', '=', '\x00', '"', '\'', '<'] ∧ c.toLower = c) ?_ hlt
  decide +kernel

theorem reads_name (h : cs.all Char.isLower = true) (kind : TagKind) (last : Option String) (name : String) :
    (inName kind last name).Reads cs (inName kind last (cs.foldl String.push name)) := by
  refine reads_all (fun c hc name => ?_) name
  obtain ⟨hbad, hspace, hnot, hlower⟩ := plain_of_isLower (List.all_eq_true.1 h c hc)
  simp only [List.mem_cons, List.not_mem_nil, or_false, not_or] at hnot
  refine reads_char rfl rfl fun foreign rest => ?_
  simp only [step, heed_of_not_bad hbad, ite_self]
  simp [inName, inTagName, pushTag, hspace, hnot, hlower]

theorem reads_attributeName (h : cs.all Char.isLower = true) (last : Option String) (tag name : String) :
    (inFirstAttribute last tag name).Reads cs (inFirstAttribute last tag (cs.foldl String.push name)) := by
  refine reads_all (fun c hc name => ?_) name
  obtain ⟨hbad, hspace, hnot, hlower⟩ := plain_of_isLower (List.all_eq_true.1 h c hc)
  simp only [List.mem_cons, List.not_mem_nil, or_false, not_or] at hnot
  refine reads_char rfl rfl fun foreign rest => ?_
  simp only [step, heed_of_not_bad hbad, ite_self]
  simp [inFirstAttribute, inAttributeName, pushName, hspace, hnot, hlower]

/-- The characters of class names and the spaces between them stand for themselves in a value. -/
theorem reads_value (hc : isClassChar c = true ∨ c = ' ') (last : Option String) (tag name value : String) :
    (inFirstValue last tag name value).Reads [c] (inFirstValue last tag name (value.push c)) := by
  have hlt : c.toNat < 128 := by
    rcases hc with hc | rfl
    · exact lt_of_isClassChar hc
    · decide
  have hplain : isBad c = false ∧ c ∉ ['&', '\x00', '"'] := by
    revert hc
    refine of_ascii (P := fun c => isClassChar c = true ∨ c = ' ' →
      isBad c = false ∧ c ∉ ['&', '\x00', '"']) ?_ hlt
    decide +kernel
  obtain ⟨hbad, hnot⟩ := hplain
  simp only [List.mem_cons, List.not_mem_nil, or_false, not_or] at hnot
  refine reads_char rfl rfl fun foreign rest => ?_
  simp only [step, heed_of_not_bad hbad, ite_self]
  simp [inFirstValue, inAttributeValue, pushValue, hnot]

/-! ## Whole tags -/

variable {b b' : Builder} {kind : TagKind} {last : Option String} {rest : List Char}

/-- The start tag of an element up to the quote that ends its class attribute. -/
theorem reads_openTag (kind : TagKind) (last : Option String) (classes : List ClassToken) :
    (resting kind last).Reads ("<div class=\"".toList ++ classValue classes)
      (inFirstValue last "div" "class" (String.ofList (classValue classes))) := by
  have hless : (resting kind last).Reads ['<'] { resting kind last with state := .tagOpen } :=
    reads_char rfl rfl fun _ _ => rfl
  have hd : Reads { resting kind last with state := .tagOpen } ['d'] (inName .start last "d") :=
    reads_char rfl rfl fun _ _ => rfl
  have hiv : (inName .start last "d").Reads ['i', 'v'] (inName .start last "div") :=
    reads_name (by decide) .start last "d"
  have hspace : (inName .start last "div").Reads [' ']
      { resting .start last with state := .beforeAttributeName, tagName := "div" } :=
    reads_char rfl rfl fun _ _ => rfl
  have hc : Reads { resting .start last with state := .beforeAttributeName, tagName := "div" } ['c']
      (inFirstAttribute last "div" "c") :=
    reads_char rfl rfl fun _ _ => rfl
  have hlass : (inFirstAttribute last "div" "c").Reads ['l', 'a', 's', 's']
      (inFirstAttribute last "div" "class") :=
    reads_attributeName (by decide) last "div" "c"
  have hequals : (inFirstAttribute last "div" "class").Reads ['=']
      { inFirstAttribute last "div" "class" with state := .beforeAttributeValue } :=
    reads_char rfl rfl fun _ _ => rfl
  have hquote : Reads { inFirstAttribute last "div" "class" with state := .beforeAttributeValue } ['"']
      (inFirstValue last "div" "class" "") :=
    reads_char rfl rfl fun _ _ => rfl
  have hvalue : (inFirstValue last "div" "class" "").Reads (classValue classes)
      (inFirstValue last "div" "class" (String.ofList (classValue classes))) := by
    rw [← foldl_push]
    exact reads_all (fun c hc => reads_value (mem_classValue hc) last "div" "class") ""
  exact ((((((((hless.trans hd).trans hiv).trans hspace).trans hc).trans hlass).trans hequals).trans
    hquote).trans hvalue)

/-- A start tag that the builder takes and is done with. -/
theorem parseFrom_openTag {classes : List ClassToken}
    (h : b.take (.tag ⟨.start, "div", false, [⟨"class", String.ofList (classValue classes)⟩]⟩) = (b', .done)) :
    parseFrom (resting kind last) b (openTag classes ++ rest) =
      parseFrom (resting .start (some "div")) b' rest := by
  have hquote : (inFirstValue last "div" "class" (String.ofList (classValue classes))).Reads ['"']
      { inFirstValue last "div" "class" (String.ofList (classValue classes)) with
        state := .afterAttributeValueQuoted } :=
    reads_char rfl rfl fun _ _ => rfl
  have hend : ∀ cs : List Char, cs ++ ['"', '>'] ++ rest = cs ++ ['"'] ++ '>' :: rest := by simp
  calc parseFrom (resting kind last) b (openTag classes ++ rest)
      = parseFrom (resting kind last) b
          ("<div class=\"".toList ++ classValue classes ++ ['"'] ++ '>' :: rest) :=
        congrArg (parseFrom (resting kind last) b) (hend _)
    _ = parseFrom { inFirstValue last "div" "class" (String.ofList (classValue classes)) with
          state := .afterAttributeValueQuoted } b ('>' :: rest) :=
        ((reads_openTag kind last classes).trans hquote) b _
    _ = parseFrom (resting .start (some "div")) b' rest :=
        parseFrom_token rfl rfl (fun _ _ => rfl) h rest

/-- An end tag that the builder takes and is done with. -/
theorem parseFrom_closeTag (h : b.take (.tag ⟨.close, "div", false, []⟩) = (b', .done)) :
    parseFrom (resting kind last) b (closeTag ++ rest) = parseFrom (resting .close last) b' rest := by
  have hless : (resting kind last).Reads ['<'] { resting kind last with state := .tagOpen } :=
    reads_char rfl rfl fun _ _ => rfl
  have hslash : Reads { resting kind last with state := .tagOpen } ['/']
      { resting kind last with state := .endTagOpen } :=
    reads_char rfl rfl fun _ _ => rfl
  have hd : Reads { resting kind last with state := .endTagOpen } ['d'] (inName .close last "d") :=
    reads_char rfl rfl fun _ _ => rfl
  have hiv : (inName .close last "d").Reads ['i', 'v'] (inName .close last "div") :=
    reads_name (by decide) .close last "d"
  have htag : closeTag ++ rest = (['<'] ++ ['/'] ++ ['d'] ++ ['i', 'v']) ++ '>' :: rest := rfl
  rw [htag, ((hless.trans hslash).trans hd).trans hiv]
  exact parseFrom_token rfl rfl (fun _ _ => rfl) h rest

/-- The end of the page. -/
theorem parseFrom_nil (h : b.take .eof = (b', .done)) : parseFrom (resting kind last) b [] = b' := by
  have hout : (resting kind last).finish.out = [.eof] := rfl
  rw [parseFrom, deliver, hout]
  simp only [List.reverse_singleton, List.foldl_cons, List.foldl_nil, h]

end Lexer

end UsedCss.Html
