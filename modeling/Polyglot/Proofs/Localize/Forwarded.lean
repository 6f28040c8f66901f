import Polyglot.Proofs.Localize.Families
import Polyglot.Proofs.Scope.Forwarded

/-!
# Copies of files that import from a forwarding module

The library is recognized by the marks on its exports, wherever they are imported from. So where a
module forwards the whole library, it makes no difference to the copy of a file from which of the
two the file imports: `localizeFile_of_reimported`.

Two scopes that give names the same meanings are compared statement by statement. A statement that
is the same in both files is copied alike by `copiesAndFlattens`; an import of either module goes
away.
-/

namespace Polyglot.Localize

open Source Scope

variable {context : Context} {scope other : Scope} {origin forwarder : String} {room : Nat}
  {node later : Node} {nodes others : List Node}

/-! ### Runs side by side -/

section Traversals

variable {copy answer : Node → Run Node}

theorem sameResult_traverseList
    (h : List.Forall₂ (fun node later => (copy node).SameResult (answer later)) nodes others) :
    (Node.traverseList copy nodes).SameResult (Node.traverseList answer others) := by
  induction h with
  | nil => exact .pure []
  | cons hn _ ih => exact hn.bind fun first => ih.bind fun rest => .pure _

theorem sameResult_traverseOption {node : Option Node}
    (h : ∀ n ∈ node, (copy n).SameResult (answer n)) :
    (Node.traverseOption copy node).SameResult (Node.traverseOption answer node) := by
  cases node with
  | none => exact .pure none
  | some node => exact (h node rfl).map

end Traversals

/-- A node has the same copy in alike scopes. -/
theorem sameResult_copyNode_of_alike (h : scope.Alike other) :
    (copyNode context scope room node).SameResult (copyNode context other room node) := by
  have hcopy := (copiesAndFlattens Run.isCompositional_sameResult context
    (fun _ : { inner : Scope // scope.Alike inner } => context.translations)
    (fun _ _ _ _ => sameResult_localText) room scope Subtype.val Subtype.property).1 node
  exact hcopy ⟨scope, .refl scope⟩ ⟨other, h⟩

/-! ### Statements -/

/-- An import of the library has no copy. -/
theorem sameResult_copyNode_importDeclaration {d : ImportDeclaration}
    (h : scope.importsLocalizeModule d) :
    (copyNode context scope room (.importDeclaration d)).SameResult (pure (.several [])) := by
  have hstep : step context scope (.importDeclaration d) = (do
      report (.importRemoved d.specifier context.fileName)
      return .done (.several [])) := if_pos h
  cases room with
  | zero =>
    rw [copyNode_zero, hstep]
    exact fun _ _ => rfl
  | succ room =>
    rw [copyNode_succ, hstep]
    exact fun _ _ => rfl

section Statements

variable {program : Program} (hr : program.resolve? origin = program.resolve? forwarder)
  (ho : program.isLocalizeModule origin) (hf : program.isLocalizeModule forwarder)

include ho hf

/-- An import of either module has no copy. -/
theorem sameResult_copyNode_of_specifier (hp : scope.program = program) (hs : scope.Alike other)
    {d : ImportDeclaration} (hd : d.specifier = origin) :
    (copyNode context scope room (.importDeclaration d)).SameResult
      (copyNode context other room (.importDeclaration { d with specifier := forwarder })) := by
  refine (sameResult_copyNode_importDeclaration ?_).trans
    (sameResult_copyNode_importDeclaration ?_).symm
  · rwa [importsLocalizeModule, hp, hd]
  · rwa [importsLocalizeModule, ← hs.program, hp]

include hr

/-- Statements that import from either module have the same copies in alike scopes. -/
theorem sameResult_copyNode_of_reimported (hp : scope.program = program) (hs : scope.Alike other)
    (h : Reimported origin forwarder node later) :
    (copyNode context scope room node).SameResult (copyNode context other room later) := by
  induction room generalizing scope other node later with
  | zero =>
    cases h with
    | same => exact sameResult_copyNode_of_alike hs
    | importDeclaration hd => exact sameResult_copyNode_of_specifier ho hf hp hs hd
    | methodDeclaration | classDeclaration =>
      rw [copyNode_zero, copyNode_zero]
      exact fun _ _ => rfl
  | succ room ih =>
    cases h with
    | same => exact sameResult_copyNode_of_alike hs
    | importDeclaration hd => exact sameResult_copyNode_of_specifier ho hf hp hs hd
    | @methodDeclaration name parameters body later h =>
      rw [copyNode_succ, copyNode_succ]
      have hbody : (scope.child parameters body).Alike (other.child parameters later) := by
        refine ⟨hs.program, .cons ?_ hs.frames⟩
        exact alike_ofBody_of_reimported (hp ▸ hr) h parameters
      -- an import in a body binds nothing, but the two bodies are different lists of statements
      refine (sameResult_traverseList (h.imp fun _ _ hn => ?_)).bind fun _ => .pure _
      exact @ih (scope.child parameters body) _ _ _ hp hbody hn
    | @classDeclaration name heritage members later exported h =>
      rw [copyNode_succ, copyNode_succ]
      refine (sameResult_traverseOption fun _ _ => sameResult_copyNode_of_alike hs).bind fun _ => ?_
      exact (sameResult_traverseList (h.imp fun _ _ hn => ih hp hs hn)).bind fun _ => .pure _

theorem sameResult_copyFile_of_reimported (context : Context) {file reimported : SourceFile}
    (hn : reimported.fileName = file.fileName)
    (h : List.Forall₂ (Reimported origin forwarder) file.statements reimported.statements) :
    (copyFile context (.ofFile program file) file).SameResult
      (copyFile context (.ofFile program reimported) reimported) := by
  have hs : (Scope.ofFile program file).Alike (Scope.ofFile program reimported) :=
    ⟨rfl, .cons (alike_ofBody_of_reimported hr h []) .nil⟩
  unfold copyFile
  split
  · exact fun _ _ => rfl
  · refine (sameResult_traverseList (h.imp fun _ _ hnode => ?_)).bind fun statements => ?_
    · exact sameResult_copyNode_of_reimported hr ho hf rfl hs hnode
    · rw [hn]
      exact .pure _

end Statements

/-- **Recognition does not depend on forwarding modules.** Let a module of the localization library
declare all its exports, and let a module that the program does not have forward them all under
their own names. In the program with that module, a file has the same copy, or fails alike, when
some of its imports of the library name the forwarding module. -/
theorem localizeFile_of_reimported {program : Program} {library forwarder : Module}
    (hf : program.IsForwarding library forwarder)
    (hl : program.isLocalizeModule library.specifier) {file reimported : SourceFile}
    (hn : reimported.fileName = file.fileName)
    (h : List.Forall₂ (Reimported library.specifier forwarder.specifier) file.statements
      reimported.statements)
    (locale : String) (translations : Option (List Message)) (requested : Int) :
    (localizeFile (program.withModule forwarder) locale translations requested
        reimported).perform.1 =
      (localizeFile (program.withModule forwarder) locale translations requested
        file).perform.1 := by
  obtain ⟨hlibrary, hforwarder⟩ := hf.isLocalizeModule_forwarder hl
  have hcopy := sameResult_copyFile_of_reimported hf.resolve?_forwarder.symm hlibrary hforwarder
    ⟨locale, file.fileName, translations, Depth.clamp Depth.standardReserve requested⟩ hn h
  rw [localizeFile_eq, localizeFile_eq, hn]
  exact (Run.SameResult.bind (.reportAll _ _) fun _ => hcopy.symm).perform_eq

/-! ### A facade -/

/-- A module of the localization library. -/
def facadeLibrary : Module where
  specifier := "library"
  exports := [
    { name := "msg", marks := [Role.message.mark], module := "library" },
    { name := statusEventName, module := "library" }]

/-- A module that forwards it. -/
def facadeModule : Module where
  specifier := "facade"
  exports := [
    { name := "msg", forwardedFrom := some "library", module := "facade" },
    { name := statusEventName, forwardedFrom := some "library", module := "facade" }]

/-- A file that imports the library by names and as a whole, and names a member of it anew in a
method. -/
def facadeFile (named whole : String) : SourceFile where
  fileName := "app.ts"
  statements := [
    .importDeclaration { specifier := named, named := [⟨"msg", some "t"⟩] },
    .importDeclaration { specifier := whole, whole := some "lib" },
    .classDeclaration "App" none [.methodDeclaration "title" [⟨"t", none⟩] [
      .importDeclaration { specifier := named },
      .variableDeclaration "say" (some (.propertyAccess (.identifier "lib") "msg")) "const" false,
      .returnStatement (some (.callExpression (.identifier "say") [.stringLiteral "Hi"]))]] false,
    .expressionStatement (.propertyAccess (.identifier "lib") statusEventName),
    .expressionStatement (.callExpression (.identifier "t") [.stringLiteral "Ho"])]

/-- A program with the file and the library. -/
def facadeProgram : Program where
  files := [facadeFile "library" "library"]
  modules := [facadeLibrary]

theorem localizeFile_of_reimported_facade :
    facadeProgram.IsForwarding facadeLibrary facadeModule ∧
    facadeProgram.isLocalizeModule facadeLibrary.specifier ∧
    (facadeFile "facade" "facade").fileName = (facadeFile "library" "library").fileName ∧
    List.Forall₂ (Reimported facadeLibrary.specifier facadeModule.specifier)
      (facadeFile "library" "library").statements (facadeFile "facade" "facade").statements ∧
    (localizeFile (facadeProgram.withModule facadeModule) "de" none 100
        (facadeFile "facade" "facade")).perform.1 =
      (localizeFile (facadeProgram.withModule facadeModule) "de" none 100
        (facadeFile "library" "library")).perform.1 := by
  have hf : facadeProgram.IsForwarding facadeLibrary facadeModule :=
    ⟨rfl, by decide, rfl, .cons ⟨rfl, rfl, rfl⟩ (.cons ⟨rfl, rfl, rfl⟩ .nil)⟩
  have hl : facadeProgram.isLocalizeModule facadeLibrary.specifier := by decide
  have h : List.Forall₂ (Reimported facadeLibrary.specifier facadeModule.specifier)
      (facadeFile "library" "library").statements (facadeFile "facade" "facade").statements := by
    refine .cons (.importDeclaration rfl) (.cons (.importDeclaration rfl) (.cons ?_
      (List.forall₂_same.2 fun node _ => .same node)))
    exact .classDeclaration (.cons (.methodDeclaration (.cons (.importDeclaration rfl)
      (List.forall₂_same.2 fun node _ => .same node))) .nil)
  have hn : (facadeFile "facade" "facade").fileName = (facadeFile "library" "library").fileName :=
    rfl
  exact ⟨hf, hl, hn, h, localizeFile_of_reimported hf hl hn h "de" none 100⟩

example : (localizeFile (facadeProgram.withModule facadeModule) "de" none 100
    (facadeFile "facade" "library")).perform.1 = .ok {
      fileName := "app.ts"
      statements := [
        .classDeclaration "App" none [.methodDeclaration "title" [⟨"t", none⟩] [
          .returnStatement (some (.stringLiteral "Hi"))]] false,
        .expressionStatement (.stringLiteral statusEventText),
        .expressionStatement (.stringLiteral "Ho")] } := by
  delta localizeFile copyFile copyNode flatten
  rfl

end Polyglot.Localize
