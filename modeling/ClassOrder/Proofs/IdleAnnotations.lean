/-
Module: ClassOrder.Proofs.IdleAnnotations
Purpose: Annotations that decide nothing have no effect from end to end. Reading a manifest scans
  them to see whether a field declaration is split, and classifying a member scans them again for
  its group; both stop at the first recognized name. So two manifests that differ in names that
  decide nothing describe the same members but for their annotations, and every rule judges and
  reports the same about both.
Main exports: Member.unannotated, Verdict.unannotated, SourceUnit.unannotated, Member.Alike,
  ClassBody.Alike, Ranking.judgeAll_unannotated, Rule.issues_eq_of_alike,
  Manifest.idle_annotations_change_nothing
-/
import ClassOrder.Proofs.AnnotationEdits
import ClassOrder.Proofs.VerdictRuns
import ClassOrder.Rule

namespace ClassOrder

/-! ### Members without their annotations -/

/-- A member without its annotations: kind, name, visibility and location. -/
def Member.unannotated (member : Member) : Member :=
  { member with annotations := [] }

/-- A class whose members have no annotations. -/
def ClassBody.unannotated (body : ClassBody) : ClassBody :=
  { body with members := body.members.map Member.unannotated }

/-- A unit whose members have no annotations. -/
def SourceUnit.unannotated (unit : SourceUnit) : SourceUnit :=
  { unit with bodies := unit.bodies.map ClassBody.unannotated }

/-- A verdict that does not show the annotations of its member. -/
def Verdict.unannotated (verdict : Verdict) : Verdict :=
  { verdict with member := verdict.member.unannotated }

/-- Two members of the same group that differ in annotations only. -/
structure Member.Alike (member other : Member) : Prop where
  unannotated : other.unannotated = member.unannotated
  group : other.group = member.group

/-- Two classes whose members are alike one by one. -/
structure ClassBody.Alike (body other : ClassBody) : Prop where
  name : other.name = body.name
  location : other.location = body.location
  members : List.Forall₂ Member.Alike body.members other.members

theorem map_eq_of_forall₂ {α β : Type} {relates : α → α → Prop} {f : α → β}
    (same : ∀ item other, relates item other → f other = f item) {items others : List α}
    (related : List.Forall₂ relates items others) : others.map f = items.map f := by
  induction related with
  | nil => rfl
  | cons head _ inductionHypothesis =>
      rw [List.map_cons, List.map_cons, same _ _ head, inductionHypothesis]

theorem ClassBody.Alike.unannotated_eq (body other : ClassBody) (alike : body.Alike other) :
    other.unannotated = body.unannotated := by
  have members : other.members.map Member.unannotated = body.members.map Member.unannotated :=
    map_eq_of_forall₂ (fun _ _ alike => alike.unannotated) alike.members
  simp only [unannotated, members, alike.name, alike.location]

/-! ### What alike manifests describe -/

namespace Manifest

/-- Whether a declaration is marked depends on its first recognized annotation. -/
theorem Declaration.isMarked_eq (declaration : Declaration) :
    declaration.isMarked = (declaration.annotations.findSome? Marker.ofName?).isSome := by
  rw [isMarked, List.isSome_findSome?]
  rfl

theorem Declaration.Alike.isMarked {declaration other : Declaration}
    (alike : declaration.Alike other) : other.isMarked = declaration.isMarked := by
  rw [isMarked_eq, isMarked_eq, alike.decided]

/-- Alike declarations are split in the same way. -/
theorem Declaration.Alike.memberNames {declaration other : Declaration}
    (alike : declaration.Alike other) : other.memberNames = declaration.memberNames := by
  have marked := alike.isMarked
  rw [Declaration.memberNames, Declaration.memberNames, marked, ← alike.same]

theorem Declaration.Alike.member {declaration other : Declaration}
    (alike : declaration.Alike other) (source : Source) (name : String) :
    (declaration.member source name).Alike (other.member source name) where
  unannotated := by
    rw [← alike.same]
    rfl
  group := by
    have decided : Marker.firstGroup? other.annotations =
        Marker.firstGroup? declaration.annotations := by
      rw [Marker.firstGroup?, Marker.firstGroup?, alike.decided]
    have unmarked : (other.member source name).kind.group (other.member source name).isPrivate =
        (declaration.member source name).kind.group
          (declaration.member source name).isPrivate := by
      rw [← alike.same]
      rfl
    rw [Member.group, Member.group, unmarked]
    exact congrArg (Option.getD · _) decided

theorem Declaration.Alike.members (declaration other : Declaration)
    (alike : declaration.Alike other) (source : Source) :
    List.Forall₂ Member.Alike (declaration.members source) (other.members source) := by
  rw [Declaration.members, Declaration.members, alike.memberNames, List.forall₂_map_left_iff,
    List.forall₂_map_right_iff, List.forall₂_same]
  intro name _
  exact alike.member source name

theorem Body.Alike.expand (body other : Body) (alike : body.Alike other) (source : Source) :
    (body.expand source).Alike (other.expand source) where
  name := alike.name
  location := by
    simp only [Body.expand, alike.range]
  members := by
    apply List.rel_flatMap alike.declarations
    intro declaration other alike
    exact Declaration.Alike.members declaration other alike source

end Manifest

/-! ### Judging alike members -/

namespace Ranking

/-- Judging does not look at annotations; only the group that it is given does. -/
theorem judge_unannotated (ranking : Ranking) (last : Option Verdict) (member : Member)
    (group : Group) :
    (ranking.judge last member group).unannotated =
      ranking.judge (last.map Verdict.unannotated) member.unannotated group := by
  cases last <;> rfl

theorem judgeAll_unannotated (ranking : Ranking) {last otherLast : Option Verdict}
    (sameLast : otherLast.map Verdict.unannotated = last.map Verdict.unannotated)
    {members others : List Member} (alike : List.Forall₂ Member.Alike members others) :
    (ranking.judgeAll otherLast others).map Verdict.unannotated =
      (ranking.judgeAll last members).map Verdict.unannotated := by
  induction alike generalizing last otherLast with
  | nil => rfl
  | @cons member other _ _ head _ inductionHypothesis =>
      have sameStep : (ranking.judge otherLast other other.group).unannotated =
          (ranking.judge last member member.group).unannotated := by
        rw [judge_unannotated, judge_unannotated, sameLast, head.unannotated, head.group]
      have sameNext : (some (ranking.judge otherLast other other.group)).map Verdict.unannotated =
          (some (ranking.judge last member member.group)).map Verdict.unannotated :=
        congrArg some sameStep
      rw [judgeAll, judgeAll, List.map_cons, List.map_cons, sameStep,
        inductionHypothesis sameNext]

theorem checked_alike (ranking : Ranking) {members others : List Member}
    (alike : List.Forall₂ Member.Alike members others) :
    List.Forall₂ Member.Alike (ranking.checked members) (ranking.checked others) := by
  apply List.rel_filter _ alike
  intro member other head
  change ranking.contains member.group = true ↔ ranking.contains other.group = true
  rw [head.group]

theorem verdicts_unannotated (ranking : Ranking) (alphabetize : Bool)
    {members others : List Member} (alike : List.Forall₂ Member.Alike members others) :
    (ranking.verdicts alphabetize others).map Verdict.unannotated =
      (ranking.verdicts alphabetize members).map Verdict.unannotated := by
  have swap : Verdict.unannotated ∘ Verdict.restrict alphabetize =
      Verdict.restrict alphabetize ∘ Verdict.unannotated := by
    funext verdict
    cases alphabetize <;> rfl
  have judged : (ranking.judgeAll none (ranking.checked others)).map Verdict.unannotated =
      (ranking.judgeAll none (ranking.checked members)).map Verdict.unannotated :=
    ranking.judgeAll_unannotated rfl (ranking.checked_alike alike)
  rw [verdicts_eq_map_restrict, verdicts_eq_map_restrict, List.map_map, List.map_map, swap,
    ← List.map_map, ← List.map_map, judged]

end Ranking

/-! ### Issues about alike units -/

namespace Rule

theorem verdicts_unannotated (rule : Rule) (body other : ClassBody) (alike : body.Alike other) :
    (rule.verdicts other).map Verdict.unannotated =
      (rule.verdicts body).map Verdict.unannotated :=
  rule.ranking.verdicts_unannotated rule.alphabetize alike.members

/-- Issues are told by what a verdict says without the annotations of its member. -/
theorem issues_eq_unannotated (rule : Rule) (unit : SourceUnit) :
    rule.issues unit =
      let verdicts :=
        (unit.bodies.map fun body => (rule.verdicts body).map Verdict.unannotated).flatten
      verdicts.filterMap rule.placementIssue? ++
        if rule.alphabetize then verdicts.filterMap rule.sortIssue? else [] := by
  have pooled : (unit.bodies.map fun body =>
      (rule.verdicts body).map Verdict.unannotated).flatten =
        (unit.bodies.flatMap rule.verdicts).map Verdict.unannotated := by
    rw [List.map_flatMap]
    rfl
  have placement : rule.placementIssue? ∘ Verdict.unannotated = rule.placementIssue? := rfl
  have sorting : rule.sortIssue? ∘ Verdict.unannotated = rule.sortIssue? := rfl
  rw [issues]
  simp only [pooled, List.filterMap_map, placement, sorting]

theorem issues_eq_of_alike (rule : Rule) {unit other : SourceUnit}
    (alike : List.Forall₂ ClassBody.Alike unit.bodies other.bodies) :
    rule.issues other = rule.issues unit := by
  rw [issues_eq_unannotated, issues_eq_unannotated,
    map_eq_of_forall₂ rule.verdicts_unannotated alike]

end Rule

/-- Two units that are the same but for annotations, and that no rule tells apart. -/
structure SourceUnit.JudgedAlike (unit other : SourceUnit) : Prop where
  unannotated : other.unannotated = unit.unannotated
  verdicts : ∀ rule : Rule,
    other.bodies.map (fun body => (rule.verdicts body).map Verdict.unannotated) =
      unit.bodies.map (fun body => (rule.verdicts body).map Verdict.unannotated)
  issues : ∀ rule : Rule, rule.issues other = rule.issues unit

theorem SourceUnit.JudgedAlike.of_bodies {unit other : SourceUnit}
    (sameSource : other.source = unit.source)
    (alike : List.Forall₂ ClassBody.Alike unit.bodies other.bodies) : unit.JudgedAlike other where
  unannotated := by
    rw [SourceUnit.unannotated, SourceUnit.unannotated, sameSource,
      map_eq_of_forall₂ ClassBody.Alike.unannotated_eq alike]
  verdicts := by
    intro rule
    exact map_eq_of_forall₂ rule.verdicts_unannotated alike
  issues := by
    intro rule
    exact rule.issues_eq_of_alike alike

/-! ### From documents to issues -/

namespace Manifest

theorem expand_judgedAlike {manifest other : Manifest} (sameSource : other.source = manifest.source)
    (alike : List.Forall₂ Body.Alike manifest.bodies other.bodies) (sourceText : Bytes) :
    (manifest.expand sourceText).JudgedAlike (other.expand sourceText) := by
  apply SourceUnit.JudgedAlike.of_bodies
  · simp only [expand, sameSource]
  · simp only [expand, sameSource, List.forall₂_map_left_iff, List.forall₂_map_right_iff]
    exact alike.imp fun body other alike => Body.Alike.expand body other alike _

/-- Annotations that decide nothing change nothing. Let names be put into and taken out of the
annotations of the members in a manifest, unrecognized ones anywhere and any names behind a
recognized one. If the manifest is accepted, so is the edited one; it describes the same unit but
for annotations, and every rule gives the same verdicts and the same issues for both. This holds
of documents, and of the texts of these documents. -/
theorem idle_annotations_change_nothing {document edited : Json}
    (edit : AnnotationEdit document edited) :
    (∀ (sourceText : Bytes) (unit : SourceUnit),
      (decode document).map (·.expand sourceText) = .ok unit →
        ∃ other, (decode edited).map (·.expand sourceText) = .ok other ∧
          unit.JudgedAlike other) ∧
    ∀ (library : Library) (files : Files) (baseDirectory : String) (text editedText : Bytes)
      (unit : SourceUnit),
      library.readJson text = .ok document → library.readJson editedText = .ok edited →
        parse library files baseDirectory text = .ok unit →
          ∃ other, parse library files baseDirectory editedText = .ok other ∧
            unit.JudgedAlike other := by
  constructor
  · intro sourceText unit accepted
    cases decoded : decode document with
    | error fault =>
        rw [decoded] at accepted
        cases accepted
    | ok manifest =>
        rw [decoded] at accepted
        cases accepted
        obtain ⟨other, otherDecoded, sameSource, alike⟩ := decode_of_annotationEdit edit decoded
        refine ⟨other.expand sourceText, ?_, expand_judgedAlike sameSource alike sourceText⟩
        rw [otherDecoded]
        rfl
  · intro library files baseDirectory text editedText unit read editedRead accepted
    obtain ⟨_, readAgain, manifest, decoded, rfl⟩ :=
      (parse_eq_ok_iff library files baseDirectory text unit).mp accepted
    obtain rfl := Except.ok.inj (read.symm.trans readAgain)
    obtain ⟨other, otherDecoded, sameSource, alike⟩ := decode_of_annotationEdit edit decoded
    -- The path of the source file is not edited, so its text is the same.
    have samePath : other.sourcePath library baseDirectory =
        manifest.sourcePath library baseDirectory := by
      rw [sourcePath, sourcePath, sameSource]
    refine ⟨_, (parse_eq_ok_iff library files baseDirectory editedText _).mpr
      ⟨edited, editedRead, other, otherDecoded, rfl⟩, ?_⟩
    rw [samePath]
    exact expand_judgedAlike sameSource alike _

/-- A declaration of two variables. It loses an annotation that is not recognized, and gains one
behind the annotation that marks it. -/
theorem idle_annotations_change_nothing_input :
    let entryWith := fun annotations : List String =>
      Json.object
        [("kind", .string "field"), ("names", .array [.string "width", .string "_height"]),
          ("annotations", .array (annotations.map .string))]
    let documentWith := fun annotations : List String =>
      Json.object
        [("source", .string "menu.dart"),
          ("types", .array [.object [("members", .array [entryWith annotations])]])]
    let document := documentWith ["deprecated", "Input"]
    let edited := documentWith ["Input", "Output"]
    AnnotationEdit document edited ∧
      ∃ unit other, (decode document).map (·.expand []) = .ok unit ∧
        (decode edited).map (·.expand []) = .ok other ∧
        unit.bodies.map (·.members.length) = [1] ∧ unit.JudgedAlike other := by
  intro entryWith documentWith document edited
  have shorter : Marker.IdleEdit ["deprecated", "Input"] ([] ++ ["Input"]) :=
    .delete .refl (.inl (by decide))
  have names : Marker.IdleEdit ["deprecated", "Input"] (["Input"] ++ "Output" :: []) :=
    .insert shorter (.inr ⟨"Input", by decide, by decide⟩)
  have entryEdit : EntryEdit (entryWith ["deprecated", "Input"]) (entryWith ["Input", "Output"]) :=
    ⟨_, _, rfl, rfl, .cons ⟨rfl, .inl rfl⟩ (.cons ⟨rfl, .inl rfl⟩
      (.cons ⟨rfl, .inr ⟨rfl, _, _, rfl, rfl, names⟩⟩ .nil))⟩
  have classEdit :
      ClassEdit (.object [("members", .array [entryWith ["deprecated", "Input"]])])
        (.object [("members", .array [entryWith ["Input", "Output"]])]) :=
    ⟨_, _, rfl, rfl, .cons ⟨rfl, .inr ⟨rfl, _, _, rfl, rfl, .cons entryEdit .nil⟩⟩ .nil⟩
  have edit : AnnotationEdit document edited :=
    ⟨_, _, rfl, rfl, .cons ⟨rfl, .inl rfl⟩
      (.cons ⟨rfl, .inr ⟨rfl, _, _, rfl, rfl, .cons classEdit .nil⟩⟩ .nil)⟩
  refine ⟨edit, ?_⟩
  have accepted : (decode document).map (·.expand []) =
      .ok ((manifestOf document).expand []) := rfl
  obtain ⟨other, otherAccepted, alike⟩ :=
    (idle_annotations_change_nothing edit).1 [] _ accepted
  exact ⟨_, other, accepted, otherAccepted, by decide, alike⟩

end Manifest

end ClassOrder
