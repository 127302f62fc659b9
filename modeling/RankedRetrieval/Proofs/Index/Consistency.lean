import RankedRetrieval.Proofs.Index.Tokens

/-!
# Consistency of an index

An index keeps the same facts in its documents, in its postings and in running figures.  They
agree after any sequence of additions, whatever the documents.

## Main Definitions

* `Edit`, `Draft` — the making of a document, one field or attribute after the other
* `Draft.analysis?` — the analysis of the last text of a field
* `Index.Consistent` — what an index over drafts has to satisfy

## Main Results

* `Index.mem_postings` — the postings of a stem
* `Index.tokens?_ofDrafts` — the tokens of a document
* `Index.consistent_ofDrafts` — every index over drafts is consistent

## Design Notes

Everything is said about the drafts by way of `Draft.analysis?`: a field that is written again
has only its last text, and a field without words leaves no trace.
-/

namespace RankedRetrieval

/-! ### Drafts -/

/-- A step in the making of a document. -/
inductive Edit where
  /-- Gives a field a text. -/
  | setField (name text : String)
  /-- Adds an attribute. -/
  | addAttribute (name value : String)

namespace Edit

/-- A document after one more step. -/
def apply (d : Document) : Edit → Document
  | setField name text => d.withField name text
  | addAttribute name value => d.withAttribute name value

/-- The text that a step gives a field. -/
def text? (field : String) : Edit → Option String
  | setField name text => if name = field then some text else none
  | addAttribute _ _ => none

end Edit

/-- A document in the making: its name and the steps. -/
structure Draft where
  /-- The name of the document outside the index. -/
  externalId : String
  /-- The steps in order. -/
  edits : List Edit

namespace Draft

/-- The document that is made. -/
def document (draft : Draft) : Document :=
  draft.edits.foldl Edit.apply (Document.named draft.externalId)

/-- The last text that is given to a field. -/
def text? (draft : Draft) (field : String) : Option String :=
  (draft.edits.filterMap (Edit.text? field)).getLast?

/-- The analysis of the last text of a field, if it holds a word. -/
def analysis? (draft : Draft) (field : String) : Option Text.Analysis :=
  ((draft.text? field).map Text.analyze).filter fun a => a.length ≠ 0

theorem externalId_document (draft : Draft) : draft.document.externalId = draft.externalId := by
  rw [document]
  induction draft.edits using List.reverseRecOn with
  | nil => rfl
  | append_singleton edits edit ih =>
    rw [List.foldl_append, List.foldl_cons, List.foldl_nil]
    refine Eq.trans ?_ ih
    cases edit <;> rfl

/-- A document has the last text of a field, and no other one. -/
theorem texts_document (draft : Draft) (field : String) :
    (draft.document.fields.filter fun entry => entry.1 = field).map Prod.snd =
      (draft.text? field).toList := by
  rw [document, text?]
  induction draft.edits using List.reverseRecOn with
  | nil => rfl
  | append_singleton edits edit ih =>
    rw [List.foldl_append, List.foldl_cons, List.foldl_nil, List.filterMap_append]
    cases edit with
    | addAttribute name value =>
      rw [List.filterMap_cons_none rfl, List.filterMap_nil, List.append_nil, ← ih]
      rfl
    | setField name text =>
      simp only [Edit.apply, Document.withField, List.filter_append, List.filter_filter]
      by_cases same : name = field
      · subst same
        simp [Edit.text?]
      · -- a text of another field leaves the texts of this one alone
        have others : (fun entry : String × String =>
            decide (entry.1 = field) && decide (entry.1 ≠ name)) =
              fun entry => decide (entry.1 = field) := by
          funext entry
          by_cases here : entry.1 = field
          · simp [here, Ne.symm same]
          · simp [here]
        rw [others]
        simpa [Edit.text?, same] using ih

end Draft

/-- The analyses of a field are those of its texts that hold a word. -/
theorem Document.analysesOf_eq (d : Document) (field : String) :
    d.analysesOf field =
      (((d.fields.filter fun entry => entry.1 = field).map Prod.snd).map Text.analyze).filter
        fun a => a.length ≠ 0 := by
  simp only [analysesOf, Index.analyses, List.filter_filter, List.filter_map, List.map_map]
  refine congrArg₂ List.map rfl (List.filter_congr fun entry _ => ?_)
  exact Bool.and_comm _ _

theorem Draft.analysesOf_document (draft : Draft) (field : String) :
    draft.document.analysesOf field = (draft.analysis? field).toList := by
  rw [Document.analysesOf_eq, texts_document, analysis?]
  cases draft.text? field with
  | none => rfl
  | some text => by_cases empty : (Text.analyze text).length = 0 <;> simp [Option.filter, empty]

theorem Draft.numbered_of_analysis? {draft : Draft} {field : String} {a : Text.Analysis}
    (found : draft.analysis? field = some a) : a.Numbered := by
  obtain ⟨some_text, -⟩ := Option.filter_eq_some_iff.1 found
  obtain ⟨text, -, rfl⟩ := Option.map_eq_some_iff.1 some_text
  exact Text.numbered_analyze text

/-- The analysis of the last text has terms only if it is kept. -/
theorem Draft.analysis?_terms_iff {draft : Draft} {stem field : String} {position : Nat} :
    (∃ a, draft.analysis? field = some a ∧ (stem, position) ∈ a.terms) ↔
      ∃ text, draft.text? field = some text ∧ (stem, position) ∈ (Text.analyze text).terms := by
  simp only [Draft.analysis?, Option.filter_eq_some_iff, Option.map_eq_some_iff]
  constructor
  · rintro ⟨_, ⟨⟨text, found, rfl⟩, -⟩, member⟩
    exact ⟨text, found, member⟩
  · rintro ⟨text, found, member⟩
    refine ⟨_, ⟨⟨text, found, rfl⟩, ?_⟩, member⟩
    have within := (Text.numbered_analyze text).lt_length _ member
    simpa using Nat.ne_of_gt (Nat.lt_of_le_of_lt (Nat.zero_le position) within)

/-- An analysis that is not kept is as long as none. -/
theorem Draft.length_analysis? (draft : Draft) (field : String) :
    ((draft.analysis? field).map Text.Analysis.length).getD 0 =
      ((draft.text? field).map fun text => (Text.analyze text).length).getD 0 := by
  rw [Draft.analysis?]
  cases draft.text? field with
  | none => rfl
  | some text => by_cases empty : (Text.analyze text).length = 0 <;> simp [Option.filter, empty]

theorem Draft.isSome_analysis? (draft : Draft) (field : String) :
    (draft.analysis? field).isSome =
      (draft.text? field).any fun text => (Text.analyze text).length ≠ 0 := by
  rw [Draft.analysis?]
  cases draft.text? field with
  | none => rfl
  | some text => by_cases empty : (Text.analyze text).length = 0 <;> simp [Option.filter, empty]

namespace Index

/-- The index over some drafts, added in order. -/
def ofDrafts (drafts : List Draft) : Index :=
  ofDocuments (drafts.map Draft.document)

/-! ### What is kept of drafts -/

@[simp]
theorem numDocs_ofDrafts (drafts : List Draft) : (ofDrafts drafts).numDocs = drafts.length := by
  rw [ofDrafts, numDocs_ofDocuments, List.length_map]

/-- A document keeps the tokens of the analysis of each field. -/
theorem tokens?_ofDrafts (drafts : List Draft) (field : String) (doc : DocId) :
    (ofDrafts drafts).tokens? field doc =
      drafts[doc]?.bind fun draft => (draft.analysis? field).map FieldTokens.ofAnalysis := by
  have kept (draft : Draft) : (store draft.document).fields.get? field =
      (draft.analysis? field).map FieldTokens.ofAnalysis := by
    have entries := draft.analysesOf_document field
    rw [Document.analysesOf] at entries
    simp only [store, Table.get?_ofList, List.filter_map, List.map_map]
    have tokens : (((analyses draft.document).filter fun entry => entry.1 = field).map
        fun entry => FieldTokens.ofAnalysis entry.2).getLast? =
          (draft.analysis? field).map FieldTokens.ofAnalysis := by
      have mapped := congrArg (List.map FieldTokens.ofAnalysis) entries
      rw [List.map_map] at mapped
      refine (congrArg List.getLast? mapped).trans ?_
      cases draft.analysis? field <;> rfl
    exact tokens
  simp only [tokens?, ofDrafts, docs_ofDocuments, List.getElem?_toArray, List.getElem?_map]
  cases drafts[doc]? with
  | none => rfl
  | some draft => exact kept draft

theorem tokens?_eq_some_iff {drafts : List Draft} {field : String} {doc : DocId}
    {tokens : FieldTokens} :
    (ofDrafts drafts).tokens? field doc = some tokens ↔
      ∃ draft a, drafts[doc]? = some draft ∧ draft.analysis? field = some a ∧
        tokens = FieldTokens.ofAnalysis a := by
  rw [tokens?_ofDrafts, Option.bind_eq_some_iff]
  constructor
  · rintro ⟨draft, hdraft, found⟩
    obtain ⟨a, ha, rfl⟩ := Option.map_eq_some_iff.1 found
    exact ⟨draft, a, hdraft, ha, rfl⟩
  · rintro ⟨draft, a, hdraft, ha, rfl⟩
    exact ⟨draft, hdraft, by rw [ha]; rfl⟩

theorem postingsOf_document (draft : Draft) (doc : DocId) (stem field : String) :
    draft.document.postingsOf doc stem field =
      ((draft.analysis? field).toList.filter fun a =>
        stem ∈ (FieldTokens.ofAnalysis a).stems).map fun a =>
          ⟨doc, FieldTokens.positionsOf a stem⟩ := by
  rw [Document.postingsOf, Draft.analysesOf_document]

/-- The postings of a stem are those of the documents whose analysis holds it. -/
theorem mem_postings {drafts : List Draft} {stem field : String} {p : Posting} :
    p ∈ (ofDrafts drafts).postings stem field ↔
      ∃ draft a, drafts[p.doc]? = some draft ∧ draft.analysis? field = some a ∧
        stem ∈ (FieldTokens.ofAnalysis a).stems ∧ p.positions = FieldTokens.positionsOf a stem := by
  rw [ofDrafts, postings_ofDocuments, List.mem_flatMap]
  constructor
  · rintro ⟨⟨d, doc⟩, hd, member⟩
    rw [List.mem_zipIdx_iff_getElem?, List.getElem?_map] at hd
    obtain ⟨draft, hdraft, rfl⟩ := Option.map_eq_some_iff.1 hd
    rw [postingsOf_document] at member
    obtain ⟨a, ha, rfl⟩ := List.mem_map.1 member
    obtain ⟨found, holds⟩ := List.mem_filter.1 ha
    exact ⟨draft, a, hdraft, by simpa using found, of_decide_eq_true holds, rfl⟩
  · rintro ⟨draft, a, hdraft, ha, holds, positions⟩
    refine ⟨(draft.document, p.doc), ?_, ?_⟩
    · rw [List.mem_zipIdx_iff_getElem?, List.getElem?_map, hdraft]
      rfl
    · rw [postingsOf_document, ha]
      refine List.mem_map.2 ⟨a, by simpa using holds, ?_⟩
      rw [← positions]

/-- The postings of a stem go from document to document. -/
theorem postings_increasing (drafts : List Draft) (stem field : String) :
    Increasing ((ofDrafts drafts).postings stem field) := by
  rw [ofDrafts, postings_ofDocuments]
  refine List.pairwise_flatMap.2 ⟨?_, ?_⟩
  · rintro ⟨d, doc⟩ member
    rw [List.mem_zipIdx_iff_getElem?, List.getElem?_map] at member
    obtain ⟨draft, -, rfl⟩ := Option.map_eq_some_iff.1 member
    rw [postingsOf_document]
    cases draft.analysis? field with
    | none => exact List.Pairwise.nil
    | some a => by_cases holds : stem ∈ (FieldTokens.ofAnalysis a).stems <;> simp [holds]
  · refine (pairwise_zipIdx _).imp fun before p hp q hq => ?_
    rw [Document.doc_of_mem_postingsOf hp, Document.doc_of_mem_postingsOf hq]
    exact before

/-- A stem is posted at a position exactly where the analysis has it. -/
theorem posted_iff {drafts : List Draft} {stem field : String} {doc : DocId} {position : Nat} :
    (∃ p ∈ (ofDrafts drafts).postings stem field, p.doc = doc ∧ position ∈ p.positions) ↔
      ∃ draft a, drafts[doc]? = some draft ∧ draft.analysis? field = some a ∧
        (stem, position) ∈ a.terms := by
  constructor
  · rintro ⟨p, member, rfl, at_position⟩
    obtain ⟨draft, a, hdraft, ha, -, positions⟩ := mem_postings.1 member
    rw [positions, FieldTokens.mem_positionsOf] at at_position
    exact ⟨draft, a, hdraft, ha, at_position⟩
  · rintro ⟨draft, a, hdraft, ha, member⟩
    exact ⟨⟨doc, FieldTokens.positionsOf a stem⟩,
      mem_postings.2 ⟨draft, a, hdraft, ha, FieldTokens.mem_stems.2 ⟨position, member⟩, rfl⟩, rfl,
      FieldTokens.mem_positionsOf.2 member⟩

/-- A stem is posted at a position exactly where a slot of the document leads to it. -/
theorem posted_iff_exists_slot {drafts : List Draft} {stem field : String} {doc : DocId}
    {position : Nat} :
    (∃ p ∈ (ofDrafts drafts).postings stem field, p.doc = doc ∧ position ∈ p.positions) ↔
      ∃ tokens slot, (ofDrafts drafts).tokens? field doc = some tokens ∧
        tokens.slots[position]? = some (some slot) ∧ tokens.stems[slot]? = some stem := by
  rw [posted_iff]
  constructor
  · rintro ⟨draft, a, hdraft, ha, member⟩
    obtain ⟨slot, at_position, at_slot⟩ :=
      (FieldTokens.exists_slot_iff (Draft.numbered_of_analysis? ha)).2 member
    exact ⟨_, slot, tokens?_eq_some_iff.2 ⟨draft, a, hdraft, ha, rfl⟩, at_position, at_slot⟩
  · rintro ⟨tokens, slot, found, at_position, at_slot⟩
    obtain ⟨draft, a, hdraft, ha, rfl⟩ := tokens?_eq_some_iff.1 found
    exact ⟨draft, a, hdraft, ha,
      (FieldTokens.exists_slot_iff (Draft.numbered_of_analysis? ha)).1
        ⟨slot, at_position, at_slot⟩⟩

/-- A stem is posted at a position exactly where the last text of the field has it. -/
theorem posted_iff_exists_text {drafts : List Draft} {stem field : String} {doc : DocId}
    {position : Nat} :
    (∃ p ∈ (ofDrafts drafts).postings stem field, p.doc = doc ∧ position ∈ p.positions) ↔
      ∃ draft text, drafts[doc]? = some draft ∧ draft.text? field = some text ∧
        (stem, position) ∈ (Text.analyze text).terms := by
  rw [posted_iff]
  constructor
  · rintro ⟨draft, a, hdraft, ha, member⟩
    obtain ⟨text, found, member⟩ := Draft.analysis?_terms_iff.1 ⟨a, ha, member⟩
    exact ⟨draft, text, hdraft, found, member⟩
  · rintro ⟨draft, text, hdraft, found, member⟩
    obtain ⟨a, ha, member⟩ := Draft.analysis?_terms_iff.2 ⟨text, found, member⟩
    exact ⟨draft, a, hdraft, ha, member⟩

/-! ### Figures -/

theorem fieldLength_ofDrafts (drafts : List Draft) (field : String) (doc : DocId) :
    (ofDrafts drafts).fieldLength field doc =
      ((drafts[doc]?.bind fun draft => draft.analysis? field).map Text.Analysis.length).getD 0 := by
  rw [fieldLength, tokens?_ofDrafts]
  cases drafts[doc]? with
  | none => rfl
  | some draft => cases h : draft.analysis? field <;> simp [h]

theorem docCount_ofDrafts (drafts : List Draft) (field : String) :
    (ofDrafts drafts).docCount field =
      drafts.countP fun draft => (draft.analysis? field).isSome := by
  rw [ofDrafts, docCount_ofDocuments, List.map_map]
  induction drafts with
  | nil => rfl
  | cons draft drafts ih =>
    rw [List.map_cons, List.sum_cons, ih, List.countP_cons, Function.comp_apply,
      Draft.analysesOf_document, Nat.add_comm]
    cases draft.analysis? field <;> rfl

theorem sumFieldLengths_ofDrafts (drafts : List Draft) (field : String) :
    (ofDrafts drafts).sumFieldLengths field =
      ((List.range drafts.length).map ((ofDrafts drafts).fieldLength field)).sum := by
  rw [ofDrafts, sumFieldLengths_ofDocuments, List.map_map]
  congr 1
  refine List.ext_getElem (by simp) fun doc hdoc _ => ?_
  have within : doc < drafts.length := by simpa using hdoc
  rw [List.getElem_map, List.getElem_map, List.getElem_range, ← ofDrafts, fieldLength_ofDrafts,
    List.getElem?_eq_getElem within, Function.comp_apply, Draft.analysesOf_document,
    Option.bind_some]
  cases drafts[doc].analysis? field <;> simp

/-! ### Term vectors -/

theorem mem_statisticsFrom {index : Index} {field : String} {slots : List (Option Nat)}
    {start : Nat} {stems : List String} {s : StemStatistics}
    (member : s ∈ index.statisticsFrom field slots start stems) :
    ∃ i, stems[i]? = some s.stem ∧ s.freq = slots.count (some (start + i)) ∧
      s.ctf = index.termCollectionFreq s.stem field ∧ s.df = index.termDocFreq s.stem field := by
  induction stems generalizing start with
  | nil => simp [statisticsFrom] at member
  | cons stem rest ih =>
    rw [statisticsFrom] at member
    rcases List.mem_cons.1 member with rfl | later
    · exact ⟨0, rfl, rfl, rfl, rfl⟩
    · obtain ⟨i, at_i, freq, figures⟩ := ih later
      exact ⟨i + 1, at_i, by rw [freq, Nat.add_right_comm, Nat.add_assoc], figures⟩

theorem freqs_statisticsFrom (index : Index) (field : String) (slots : List (Option Nat))
    (start : Nat) (stems : List String) :
    (index.statisticsFrom field slots start stems).map StemStatistics.freq =
      (List.range' start stems.length).map fun slot => slots.count (some slot) := by
  induction stems generalizing start with
  | nil => rfl
  | cons stem rest ih =>
    rw [statisticsFrom, List.map_cons, ih, List.length_cons, List.range'_succ, List.map_cons]

@[simp]
theorem stems_statisticsFrom (index : Index) (field : String) (slots : List (Option Nat))
    (start : Nat) (stems : List String) :
    (index.statisticsFrom field slots start stems).map StemStatistics.stem = stems := by
  induction stems generalizing start with
  | nil => rfl
  | cons stem rest ih => rw [statisticsFrom, List.map_cons, ih]

theorem ctf_eq_sum (l : InvertedList) : l.ctf = (l.postings.map Posting.tf).sum := by
  rw [InvertedList.ctf]
  induction l.postings with
  | nil => rfl
  | cons p ps ih => rw [List.foldr_cons, ih, List.map_cons, List.sum_cons]

section TermVectors

variable {drafts : List Draft} {doc : DocId} {field : String} {v : TermVector}

theorem exists_analysis_of_termVector?
    (found : (ofDrafts drafts).termVector? doc field = some v) :
    ∃ draft a, drafts[doc]? = some draft ∧ draft.analysis? field = some a ∧
      v = ⟨(ofDrafts drafts).statisticsFrom field (FieldTokens.ofAnalysis a).slots 0
        (FieldTokens.ofAnalysis a).stems, (FieldTokens.ofAnalysis a).slots⟩ := by
  obtain ⟨tokens, htokens, rfl⟩ := Option.map_eq_some_iff.1 found
  obtain ⟨draft, a, hdraft, ha, rfl⟩ := tokens?_eq_some_iff.1 htokens
  exact ⟨draft, a, hdraft, ha, rfl⟩

/-- The figures of a stem in a term vector are those of its posting and of its inverted list. -/
theorem figures_of_mem_termVector? (found : (ofDrafts drafts).termVector? doc field = some v)
    {s : StemStatistics} (member : s ∈ v.stems) :
    (∃ p ∈ (ofDrafts drafts).postings s.stem field, p.doc = doc ∧ s.freq = p.tf) ∧
      s.ctf = (((ofDrafts drafts).postings s.stem field).map Posting.tf).sum ∧
      s.df = ((ofDrafts drafts).postings s.stem field).length := by
  obtain ⟨draft, a, hdraft, ha, rfl⟩ := exists_analysis_of_termVector? found
  obtain ⟨slot, at_slot, freq, ctf, df⟩ := mem_statisticsFrom member
  refine ⟨⟨⟨doc, FieldTokens.positionsOf a s.stem⟩,
    mem_postings.2 ⟨draft, a, hdraft, ha, List.mem_of_getElem? at_slot, rfl⟩, rfl, ?_⟩, ?_, df⟩
  · rw [freq, Nat.zero_add, FieldTokens.count_slots (Draft.numbered_of_analysis? ha) at_slot]
    rfl
  · rw [ctf, termCollectionFreq, ctf_eq_sum]
    rfl

/-- The stems of a term vector are distinct. -/
theorem nodup_stems_of_termVector? (found : (ofDrafts drafts).termVector? doc field = some v) :
    (v.stems.map StemStatistics.stem).Nodup := by
  obtain ⟨draft, a, -, -, rfl⟩ := exists_analysis_of_termVector? found
  rw [stems_statisticsFrom]
  exact FieldTokens.nodup_stems a

/-- The stems of a term vector are those that the document has a posting of. -/
theorem mem_stems_of_termVector? (found : (ofDrafts drafts).termVector? doc field = some v)
    {stem : String} :
    stem ∈ v.stems.map StemStatistics.stem ↔
      ∃ p ∈ (ofDrafts drafts).postings stem field, p.doc = doc := by
  obtain ⟨draft, a, hdraft, ha, rfl⟩ := exists_analysis_of_termVector? found
  rw [stems_statisticsFrom]
  constructor
  · intro member
    exact ⟨⟨doc, _⟩, mem_postings.2 ⟨draft, a, hdraft, ha, member, rfl⟩, rfl⟩
  · rintro ⟨p, member, rfl⟩
    obtain ⟨draft', a', hdraft', ha', holds, -⟩ := mem_postings.1 member
    obtain rfl := Option.some.inj (hdraft.symm.trans hdraft')
    obtain rfl := Option.some.inj (ha.symm.trans ha')
    exact holds

/-- The stems of a term vector and its stop words make up the field. -/
theorem length_of_termVector? (found : (ofDrafts drafts).termVector? doc field = some v) :
    (v.stems.map StemStatistics.freq).sum + v.stopwordCount =
      (ofDrafts drafts).fieldLength field doc := by
  obtain ⟨draft, a, hdraft, ha, rfl⟩ := exists_analysis_of_termVector? found
  rw [freqs_statisticsFrom, ← List.range_eq_range', TermVector.stopwordCount,
    FieldTokens.sum_count_slots, fieldLength_ofDrafts, hdraft, Option.bind_some, ha]
  rfl

end TermVectors

/-! ### Names -/

/-- The name of the document at a number. -/
def nameAt (docs : List Document) (doc : DocId) : Option String :=
  docs[doc]?.map Document.externalId

theorem nameAt_append_singleton (docs : List Document) (d : Document) (doc : DocId) :
    nameAt (docs ++ [d]) doc =
      if doc = docs.length then some d.externalId else nameAt docs doc := by
  unfold nameAt
  rcases Nat.lt_trichotomy doc docs.length with before | rfl | beyond
  · rw [List.getElem?_append_left before, if_neg (Nat.ne_of_lt before)]
  · simp
  · rw [if_neg (Nat.ne_of_gt beyond), List.getElem?_eq_none (Nat.le_of_lt beyond),
      List.getElem?_eq_none (by rw [List.length_append]; exact beyond)]

theorem lt_length_of_nameAt {docs : List Document} {doc : DocId} {name : String}
    (named : nameAt docs doc = some name) : doc < docs.length := by
  obtain ⟨d, found, -⟩ := Option.map_eq_some_iff.1 named
  exact (List.getElem?_eq_some_iff.1 found).1

/-- A name stands for the last document that has it. -/
theorem internalId?_eq_some_iff {docs : List Document} {externalId : String} {doc : DocId} :
    (ofDocuments docs).internalId? externalId = some doc ↔
      nameAt docs doc = some externalId ∧
        ∀ later, doc < later → nameAt docs later ≠ some externalId := by
  induction docs using List.reverseRecOn with
  | nil =>
    have none_named : (ofDocuments []).internalId? externalId = none := rfl
    simp [none_named, nameAt]
  | append_singleton docs d ih =>
    rw [ofDocuments_append_singleton, internalId?_add, size_docs_ofDocuments]
    simp only [nameAt_append_singleton]
    by_cases same : d.externalId = externalId
    · rw [if_pos same, same]
      constructor
      · -- the document that is added last is behind all others of its name
        intro last
        obtain rfl := Option.some.inj last
        refine ⟨if_pos rfl, fun later after named => ?_⟩
        rw [if_neg (Nat.ne_of_gt after)] at named
        exact Nat.lt_asymm after (lt_length_of_nameAt named)
      · rintro ⟨named, none_later⟩
        have not_before : ¬ doc < docs.length := fun before =>
          none_later docs.length before (if_pos rfl)
        split at named
        · rename_i last
          rw [last]
        · exact absurd (lt_length_of_nameAt named) not_before
    · rw [if_neg same, ih]
      constructor
      · rintro ⟨named, none_later⟩
        rw [if_neg (Nat.ne_of_lt (lt_length_of_nameAt named))]
        refine ⟨named, fun later after found => ?_⟩
        split at found
        · exact same (Option.some.inj found)
        · exact none_later later after found
      · rintro ⟨named, none_later⟩
        split at named
        · exact absurd (Option.some.inj named) same
        · refine ⟨named, fun later after found => ?_⟩
          have not_last := none_later later after
          rw [if_neg (Nat.ne_of_lt (lt_length_of_nameAt found))] at not_last
          exact not_last found

/-- A name stands for the last draft that has it. -/
theorem internalId?_ofDrafts {drafts : List Draft} {externalId : String} {doc : DocId} :
    (ofDrafts drafts).internalId? externalId = some doc ↔
      drafts[doc]?.map Draft.externalId = some externalId ∧
        ∀ later, doc < later → drafts[later]?.map Draft.externalId ≠ some externalId := by
  have names (doc : DocId) : nameAt (drafts.map Draft.document) doc =
      drafts[doc]?.map Draft.externalId := by
    rw [nameAt, List.getElem?_map, Option.map_map]
    exact congrArg (drafts[doc]?.map ·) (funext Draft.externalId_document)
  rw [ofDrafts, internalId?_eq_some_iff]
  simp only [names]

/-! ### Consistency -/

/-- What an index over drafts has to satisfy. -/
structure Consistent (index : Index) (drafts : List Draft) : Prop where
  /-- Every document is kept. -/
  numDocs_eq : index.numDocs = drafts.length
  /-- The documents of a stem increase. -/
  docs_increasing : ∀ stem field, (index.postings stem field).Pairwise fun p q => p.doc < q.doc
  /-- They are documents of the index. -/
  docs_lt : ∀ stem field, ∀ p ∈ index.postings stem field, p.doc < index.numDocs
  /-- A posting has positions. -/
  positions_ne_nil : ∀ stem field, ∀ p ∈ index.postings stem field, p.positions ≠ []
  /-- The positions of a posting increase. -/
  positions_increasing : ∀ stem field, ∀ p ∈ index.postings stem field,
    p.positions.Pairwise (· < ·)
  /-- A stem is posted at a position exactly where a slot of the document leads to it. -/
  posted_iff_slot : ∀ stem field doc position,
    (∃ p ∈ index.postings stem field, p.doc = doc ∧ position ∈ p.positions) ↔
      ∃ tokens slot, index.tokens? field doc = some tokens ∧
        tokens.slots[position]? = some (some slot) ∧ tokens.stems[slot]? = some stem
  /-- It is posted exactly where the analysis of the last text of the field puts it. -/
  posted_iff_text : ∀ stem field doc position,
    (∃ p ∈ index.postings stem field, p.doc = doc ∧ position ∈ p.positions) ↔
      ∃ draft text, drafts[doc]? = some draft ∧ draft.text? field = some text ∧
        (stem, position) ∈ (Text.analyze text).terms
  /-- The stems of a field of a document are distinct. -/
  stems_nodup : ∀ field doc tokens, index.tokens? field doc = some tokens → tokens.stems.Nodup
  /-- Every slot is the number of a stem. -/
  slots_lt : ∀ field doc tokens, index.tokens? field doc = some tokens →
    ∀ slot, some slot ∈ tokens.slots → slot < tokens.stems.length
  /-- The length of a field is that of the analysis of its last text. -/
  fieldLength_eq : ∀ field doc, index.fieldLength field doc =
    ((drafts[doc]?.bind fun draft => draft.text? field).map fun text =>
      (Text.analyze text).length).getD 0
  /-- The documents that have a field are those with a word in it. -/
  docCount_eq : ∀ field, index.docCount field =
    drafts.countP fun draft => (draft.text? field).any fun text => (Text.analyze text).length ≠ 0
  /-- The length of a field in all documents is the sum of its lengths. -/
  sumFieldLengths_eq : ∀ field, index.sumFieldLengths field =
    ((List.range index.numDocs).map (index.fieldLength field)).sum
  /-- In a term vector the frequency of a stem is that of its posting, and the other figures are
  the totals of its inverted list. -/
  termVector_stems : ∀ doc field v, index.termVector? doc field = some v → ∀ s ∈ v.stems,
    (∃ p ∈ index.postings s.stem field, p.doc = doc ∧ s.freq = p.tf) ∧
      s.ctf = ((index.postings s.stem field).map Posting.tf).sum ∧
      s.df = (index.postings s.stem field).length
  /-- The frequencies and the stop words of a term vector make up the length of the field. -/
  termVector_length : ∀ doc field v, index.termVector? doc field = some v →
    (v.stems.map StemStatistics.freq).sum + v.stopwordCount = index.fieldLength field doc
  /-- A name stands for the last document that was added with it. -/
  internalId?_iff : ∀ externalId doc, index.internalId? externalId = some doc ↔
    drafts[doc]?.map Draft.externalId = some externalId ∧
      ∀ later, doc < later → drafts[later]?.map Draft.externalId ≠ some externalId

section Postings

variable {drafts : List Draft} {stem field : String} {p : Posting}

/-- A posting is of a document of the index. -/
theorem doc_lt_numDocs (member : p ∈ (ofDrafts drafts).postings stem field) :
    p.doc < (ofDrafts drafts).numDocs := by
  obtain ⟨draft, -, hdraft, -⟩ := mem_postings.1 member
  rw [numDocs_ofDrafts]
  exact (List.getElem?_eq_some_iff.1 hdraft).1

theorem positions_ne_nil (member : p ∈ (ofDrafts drafts).postings stem field) :
    p.positions ≠ [] := by
  obtain ⟨draft, a, -, -, holds, positions⟩ := mem_postings.1 member
  rw [positions]
  exact FieldTokens.positionsOf_ne_nil holds

theorem positions_increasing (member : p ∈ (ofDrafts drafts).postings stem field) :
    p.positions.Pairwise (· < ·) := by
  obtain ⟨draft, a, -, ha, -, positions⟩ := mem_postings.1 member
  rw [positions]
  exact FieldTokens.positionsOf_increasing (Draft.numbered_of_analysis? ha) stem

end Postings

/-- Every index over drafts is consistent. -/
theorem consistent_ofDrafts (drafts : List Draft) : Consistent (ofDrafts drafts) drafts where
  numDocs_eq := numDocs_ofDrafts drafts
  docs_increasing := postings_increasing drafts
  docs_lt _ _ _ := doc_lt_numDocs
  positions_ne_nil _ _ _ := positions_ne_nil
  positions_increasing _ _ _ := positions_increasing
  posted_iff_slot _ _ _ _ := posted_iff_exists_slot
  posted_iff_text _ _ _ _ := posted_iff_exists_text
  stems_nodup field doc tokens found := by
    obtain ⟨draft, a, -, -, rfl⟩ := tokens?_eq_some_iff.1 found
    exact FieldTokens.nodup_stems a
  slots_lt field doc tokens found slot member := by
    obtain ⟨draft, a, -, -, rfl⟩ := tokens?_eq_some_iff.1 found
    exact FieldTokens.slot_lt member
  fieldLength_eq field doc := by
    rw [fieldLength_ofDrafts]
    cases drafts[doc]? with
    | none => rfl
    | some draft => exact draft.length_analysis? field
  docCount_eq field := by
    rw [docCount_ofDrafts]
    simp only [Draft.isSome_analysis?]
  sumFieldLengths_eq field := by rw [sumFieldLengths_ofDrafts, numDocs_ofDrafts]
  termVector_stems _ _ _ found _ := figures_of_mem_termVector? found
  termVector_length _ _ _ := length_of_termVector?
  internalId?_iff _ _ := internalId?_ofDrafts

end Index

end RankedRetrieval
