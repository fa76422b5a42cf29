/-
This file shows that the commands agree: a build takes every specifier to where it leads when it is
resolved by itself.
-/

import ModuleGraph.Command
import ModuleGraph.Proofs.Build.Specifiers
import ModuleGraph.Proofs.Project

namespace ModuleGraph

open Hook

namespace Project

variable {project : Project} {workspace : Workspace}

/-- Without the web no plugin looks at the form of an import. -/
theorem Opens.ignoresForm (opens : project.Opens workspace) :
    ∀ handler ∈ workspace.chain.resolveHandlers, IgnoresForm handler.callback := by
  intro handler member
  rcases opens.mem_resolveHandlers member with rfl | rfl
  · exact Virtual.ignoresForm_resolve _
  · exact External.ignoresForm_resolve _

theorem Opens.agreesWith (opens : project.Opens workspace) {limit : Nat} {entries : List String}
    {session last : Session} {report : Report}
    (built : workspace.build .scan limit entries session = some (report, last))
    (finished : report.aborted = false) (asked : Session) :
    ∃ course final, workspace.Takes .scan entries session course final last ∧
      final.report = report ∧
      course.AgreesWith report entries fun specifier importer =>
        (workspace.resolveSpecifier specifier importer asked).1 := by
  obtain ⟨course, final, takes, rfl, _⟩ := Workspace.build_eq_some_iff.mp built
  exact ⟨course, final, takes, rfl,
    takes.agreesWith opens.isFunctional opens.ignoresForm opens.supplies finished asked⟩

/-- A build of a project without the web that is not aborted takes each entry, and each import of a
file in whatever form it is written, to where the specifier leads by itself. -/
theorem agreesWith_of_workspace (opened : project.workspace none = .ok workspace) {limit : Nat}
    {entries : List String} {session last : Session} {report : Report}
    (built : workspace.build .scan limit entries session = some (report, last))
    (finished : report.aborted = false) (asked : Session) :
    ∃ course final, workspace.Takes .scan entries session course final last ∧
      final.report = report ∧
      course.AgreesWith report entries fun specifier importer =>
        (workspace.resolveSpecifier specifier importer asked).1 :=
  (opens_of_workspace opened).agreesWith built finished asked

/-- Three files with an import of each form, of which the last fails. -/
def forms : Project :=
  { empty with
    files := tableOf [("/main.js", "import './a.js'"), ("/a.js", "import('./b.js')"),
      ("/b.js", "require('react')")] }

theorem forms_agreesWith :
    ∃ workspace, forms.workspace none = .ok workspace ∧
      ∃ report last, workspace.build .scan 3 ["/main.js"] forms.session = some (report, last) ∧
        report.modules.map BuiltModule.dependencies = [["/a.js"], ["/b.js"], []] ∧
        report.failures = [⟨.unmapped "react" (some "/b.js"), "react", some "/b.js"⟩] ∧
        ∃ course, Course.AgreesWith course report ["/main.js"] fun specifier importer =>
          (workspace.resolveSpecifier specifier importer Session.start).1 := by
  obtain ⟨workspace, opened⟩ : ∃ workspace, forms.workspace none = .ok workspace := ⟨_, rfl⟩
  have outcome : (forms.workspace none).toOption.bind (fun workspace =>
      (workspace.build .scan 3 ["/main.js"] forms.session).map Prod.fst) =
      some ⟨[⟨"/main.js", "file", .script, some "import './a.js'", ["/a.js"]⟩,
          ⟨"/a.js", "file", .script, some "import('./b.js')", ["/b.js"]⟩,
          ⟨"/b.js", "file", .script, some "require('react')", []⟩], [],
        [⟨.unmapped "react" (some "/b.js"), "react", some "/b.js"⟩], [], false⟩ := by
    decide +kernel
  rw [opened] at outcome
  obtain ⟨⟨report, last⟩, built, rfl⟩ := Option.map_eq_some_iff.mp outcome
  obtain ⟨course, _, _, _, agrees⟩ := agreesWith_of_workspace opened built rfl Session.start
  exact ⟨workspace, opened, _, last, built, rfl, rfl, course, agrees⟩

end Project

namespace Command

theorem workspace_of_setUp {path : String} {manifest : Option ByteArray} {web : Option Remote.Web}
    {project : Project} {workspace : Workspace}
    (ready : setUp path manifest web = .ok (project, workspace)) :
    project.workspace web = .ok workspace := by
  rw [setUp] at ready
  cases read : Project.load path manifest with
  | error error =>
      rw [read] at ready
      cases ready
  | ok loaded =>
      rw [read] at ready
      change (loaded.workspace web >>= fun opened => .ok (loaded, opened)) = _ at ready
      cases opened : loaded.workspace web with
      | error error =>
          rw [opened] at ready
          cases ready
      | ok other =>
          rw [opened] at ready
          cases ready
          exact opened

/-- On a project without the web, a build that is not aborted agrees with resolving its specifiers
one by one. -/
theorem agreesWith {path : String} {manifest : Option ByteArray} {limit : Nat}
    {entries started : List String} {emitCode : Bool} {report : Report}
    (outcome : run (.build entries emitCode) path manifest none limit =
      some (.built started report emitCode))
    (finished : report.aborted = false) :
    ∃ leads : String → Option String → Except Error ResolvedModule,
      (∀ specifier importer, run (.resolve specifier importer) path manifest none limit =
        some (.resolved specifier importer (leads specifier importer))) ∧
      ∃ course : Course, course.AgreesWith report started leads := by
  cases ready : setUp path manifest none with
  | error error => simp [run, ready] at outcome
  | ok opened =>
      obtain ⟨project, workspace⟩ := opened
      have opened := workspace_of_setUp ready
      simp only [run, ready, Option.map_eq_some_iff] at outcome
      obtain ⟨⟨report, last⟩, built, same⟩ := outcome
      cases same
      obtain ⟨course, _, _, _, agrees⟩ :=
        (Project.opens_of_workspace opened).agreesWith built finished project.session
      exact ⟨_, fun specifier importer => by simp only [run, ready], course, agrees⟩

end Command

end ModuleGraph
