import TargetAssembly.Proofs.Library.Union
import TargetAssembly.Proofs.Registry.IllFormed

/-!
# The common library and the settings of a project

What a target needs comes from the target itself, from the libraries that it depends on and from its
host.  `resolution_exact` says what its common library is, and `settings_exact` what its project is
told of it.
-/

namespace TargetAssembly

/-!
## The common library of a target

The common library of a target is the union of what the target brings along by itself, of the
registered libraries among those that it depends on, and of further ones.  In every field the
entries of the target come first.  `resolution_exact` says this, and which changes do not show:
labels that are not registered, a label that is repeated further on, and a library that brings
nothing new.
-/

namespace Library

variable {l : Library} {ls ms : List Library}

/-- Libraries that are among those before them can be left out. -/
lemma union_append_append_of_subset (among : ms ⊆ l :: ls) (ns : List Library) :
    l.union (ls ++ ms ++ ns) = l.union (ls ++ ns) := by
  rw [← union_union, union_append_of_subset among, union_union]

/-- The entries of a library stand at the head of every union that begins with it. -/
lemma exists_head_union (l : Library) (ls : List Library) {α : Type} (f : Field α) :
    ∃ head, FirstSeen (l.entries f) head ∧ head <+: (l.union ls).entries f := by
  have := f.decEq
  refine ⟨(l.entries f).eraseDups, firstSeen_eraseDups _, ?_⟩
  rw [entries_union, stream_cons, List.eraseDups_append]
  exact List.prefix_append _ _

end Library

namespace Registry

variable (r : Registry) (a : TestTarget) (frameworks : List String) (libraries : List Library)

/-- What a target brings along by itself, field by field.  Its own frameworks are followed by
further ones, and it has an archive if it has sources of any kind. -/
def ownEntries {α : Type} : Library.Field α → List α
  | .sdkFrameworks => a.sdkFrameworks ++ frameworks
  | .sources => (a.srcs ++ a.nonArcSrcs).map a.source
  | .storyboards => a.storyboards.map a.source
  | .dataModels => a.dataModels.map a.source
  | .linkedLibraries => if a.Sourceless then [] else [libraryArchive a]

/-- All entries that a common library is made of, as they come. -/
def resolvedStream {α : Type} (f : Library.Field α) : List α :=
  ownEntries a frameworks f ++
    (a.deps.filterMap fun label => r.libraries.lookup label).flatMap (·.entries f) ++
    libraries.flatMap (·.entries f)

lemma entries_ownLibrary {α : Type} (f : Library.Field α) :
    (ownLibrary a frameworks).entries f = ownEntries a frameworks f := by
  cases f with
  | linkedLibraries =>
    have archive := isSome_archiveOf_iff a
    change (archiveOf a).toList = if a.Sourceless then [] else [libraryArchive a]
    split_ifs with sourceless
    · simpa [sourceless] using archive
    · obtain ⟨x, made⟩ := Option.isSome_iff_exists.mp (archive.mpr sourceless)
      rw [archiveOf] at made ⊢
      split_ifs at made ⊢
      rfl
  | sdkFrameworks | sources | storyboards | dataModels => rfl

lemma stream_commonLibrary {α : Type} (f : Library.Field α) :
    Library.stream (ownLibrary a frameworks :: (r.librariesOf a.deps ++ libraries)) f =
      r.resolvedStream a frameworks libraries f := by
  rw [Library.stream_cons, Library.stream_append, entries_ownLibrary, resolvedStream,
    List.append_assoc]
  rfl

/-- Only the registered ones among some labels count. -/
lemma librariesOf_filter (labels : List String) :
    r.librariesOf (labels.filter (· ∈ Keyed.keys r.libraries)) = r.librariesOf labels := by
  rw [librariesOf, librariesOf, List.filterMap_filter]
  refine List.filterMap_congr fun label _ => ?_
  by_cases known : label ∈ Keyed.keys r.libraries
  · simp [known]
  · simp [known, Keyed.lookup_eq_none_iff.mpr known]

/-- A label that is repeated further on brings no other library. -/
lemma librariesOf_repeated {front : List String} {label : String} (there : label ∈ front)
    (back : List String) :
    ∃ again, r.librariesOf (front ++ label :: back) =
        r.librariesOf front ++ again ++ r.librariesOf back ∧ again ⊆ r.librariesOf front := by
  refine ⟨r.librariesOf [label], ?_, ?_⟩
  · rw [← List.singleton_append, ← List.append_assoc]
    simp only [librariesOf, List.filterMap_append]
  · exact List.filterMap_subset _ (List.cons_subset.mpr ⟨there, List.nil_subset front⟩)

/-- What is linked shows in the common library through the union alone. -/
lemma answer_of_union (deps : List String) {further : List Library}
    (same : (ownLibrary a frameworks).union (r.librariesOf deps ++ further) =
      (ownLibrary a frameworks).union (r.librariesOf a.deps ++ libraries)) :
    r.answer (.commonLibrary { a with deps } frameworks further) =
      .ok (r.commonLibrary a frameworks libraries) := by
  have common : r.commonLibrary { a with deps } frameworks further =
      r.commonLibrary a frameworks libraries :=
    congrArg (CommonLibrary.mk (archiveOf a).isSome) same
  exact congrArg Except.ok common

/-! ### Main result -/

/-- A registry always finds the common library of a target, and it has an archive just if the target
has sources of some kind.  In every field it holds the entries of the target, those of the
registered libraries among those that the target depends on, in their order, and those of the
further libraries, each once and in the order in which they are first seen; those of the target
stand at its head.  It does not change when other labels that are not registered stand between the
registered ones, when a label is repeated further on, or when a library is appended whose entries
are all there. -/
theorem resolution_exact :
    ∃ common : CommonLibrary,
      r.answer (.commonLibrary a frameworks libraries) = .ok common ∧
      (common.hasArchive = true ↔ a.srcs ≠ [] ∨ a.nonArcSrcs ≠ []) ∧
      (∀ {α : Type} (f : Library.Field α),
        FirstSeen (r.resolvedStream a frameworks libraries f) (common.library.entries f) ∧
        ∃ head, FirstSeen (ownEntries a frameworks f) head ∧ head <+: common.library.entries f) ∧
      (∀ deps, deps.filter (· ∈ Keyed.keys r.libraries) =
          a.deps.filter (· ∈ Keyed.keys r.libraries) →
        r.answer (.commonLibrary { a with deps } frameworks libraries) = .ok common) ∧
      (∀ front label back, a.deps = front ++ back → label ∈ front →
        r.answer (.commonLibrary { a with deps := front ++ label :: back } frameworks libraries) =
          .ok common) ∧
      ∀ extra : Library,
        (∀ {α : Type} (f : Library.Field α), ∀ x ∈ extra.entries f, x ∈ common.library.entries f) →
        r.answer (.commonLibrary a frameworks (libraries ++ [extra])) = .ok common := by
  refine ⟨r.commonLibrary a frameworks libraries, rfl, ?_, fun f => ⟨?_, ?_⟩, fun deps same => ?_,
    fun front label back deps there => ?_, fun extra known => ?_⟩
  · refine (isSome_archiveOf_iff a).trans ?_
    rw [TestTarget.Sourceless, not_and_or]
  · rw [← stream_commonLibrary]
    exact Library.firstSeen_union _ _ f
  · rw [← entries_ownLibrary]
    exact (ownLibrary a frameworks).exists_head_union _ f
  · refine r.answer_of_union a frameworks libraries _ ?_
    rw [← librariesOf_filter, same, librariesOf_filter]
  · obtain ⟨again, split, among⟩ := r.librariesOf_repeated there back
    have joined : r.librariesOf a.deps = r.librariesOf front ++ r.librariesOf back := by
      rw [deps]
      exact List.filterMap_append
    refine r.answer_of_union a frameworks libraries _ ?_
    rw [split, joined, List.append_assoc _ _ libraries, List.append_assoc _ _ libraries]
    exact Library.union_append_append_of_subset (List.subset_cons_of_subset _ among) _
  · refine r.answer_of_union a frameworks libraries a.deps ?_
    rw [← List.append_assoc]
    refine Library.union_append_of_known fun f x hx => ?_
    rw [Library.stream, List.flatMap_singleton] at hx
    exact ((ownLibrary a frameworks).firstSeen_union _ f).mem x |>.mp (known f x hx)

/-- A registry of one library. -/
def oneLibrary : Registry :=
  { libraries := [("//lib:views", { sdkFrameworks := ["UIKit", "Foundation"] })] }

/-- A target that depends on the registered library and names a framework of it. -/
def dependent : TestTarget :=
  { label := "//app:tests", deps := ["//lib:views"], sdkFrameworks := ["Foundation"] }

/-- A library whose frameworks all come from elsewhere too. -/
def knownFrameworks : Library := { sdkFrameworks := ["UIKit", "XCTest"] }

/-- A label that is not registered, the label of the library once more, and a library of known
frameworks do not change what the target is linked with, and its own frameworks come first. -/
theorem resolution_dependent :
    ["//lib:none", "//lib:views"].filter (· ∈ Keyed.keys oneLibrary.libraries) =
        dependent.deps.filter (· ∈ Keyed.keys oneLibrary.libraries) ∧
      dependent.deps = ["//lib:views"] ++ [] ∧ "//lib:views" ∈ ["//lib:views"] ∧
      ∃ common : CommonLibrary,
        common.library = { sdkFrameworks := ["Foundation", "XCTest", "UIKit"] } ∧
        (∀ {α : Type} (f : Library.Field α), ∀ x ∈ knownFrameworks.entries f,
          x ∈ common.library.entries f) ∧
        oneLibrary.answer (.commonLibrary { dependent with deps := ["//lib:none", "//lib:views"] }
          ["XCTest"] []) = .ok common ∧
        oneLibrary.answer (.commonLibrary { dependent with deps := ["//lib:views", "//lib:views"] }
          ["XCTest"] []) = .ok common ∧
        oneLibrary.answer (.commonLibrary dependent ["XCTest"] [knownFrameworks]) =
          .ok common := by
  have registered : ["//lib:none", "//lib:views"].filter (· ∈ Keyed.keys oneLibrary.libraries) =
      dependent.deps.filter (· ∈ Keyed.keys oneLibrary.libraries) := by decide
  have there : "//lib:views" ∈ ["//lib:views"] := List.mem_singleton_self _
  obtain ⟨common, answered, -, -, dropped, repeated, appended⟩ :=
    resolution_exact oneLibrary dependent ["XCTest"] []
  have resolved : common.library = { sdkFrameworks := ["Foundation", "XCTest", "UIKit"] } := by
    cases answered
    decide
  have frameworks : ∀ x ∈ knownFrameworks.sdkFrameworks, x ∈ ["Foundation", "XCTest", "UIKit"] := by
    decide
  have known : ∀ {α : Type} (f : Library.Field α), ∀ x ∈ knownFrameworks.entries f,
      x ∈ common.library.entries f := by
    intro α f x hx
    rw [resolved]
    cases f with
    | sdkFrameworks => exact frameworks x hx
    | sources | storyboards | dataModels | linkedLibraries => cases hx
  exact ⟨registered, rfl, there, common, resolved, known, dropped _ registered,
    repeated _ _ [] rfl there, appended knownFrameworks known⟩

end Registry

end TargetAssembly

namespace TargetAssembly.Registry

/-!
## The settings of a project

The project of a target is told how its tests are linked, which frameworks they need and for which
version of the system they are.  The frameworks come from the target, from the libraries that it
depends on, from its host and from the library that looks for leaks, each framework once.
`settings_exact` gives the settings as they stand in the description of a build from a registry.
-/

variable (r : Registry) (a : TestTarget) (c : Configuration)

/-- The host that a target is linked against: that of its label, for a hosted unit test. -/
def loaderOf : Option HostApp := if a.isHosted then r.hostOf a else none

/-- The frameworks of all that a target is linked with, as they come. -/
def neededFrameworks : List String :=
  a.sdkFrameworks ++ (if a.isHosted then ["XCTest"] else []) ++
    (a.deps.filterMap fun label => r.libraries.lookup label).flatMap (·.sdkFrameworks) ++
    ((r.loaderOf a).map (·.library.sdkFrameworks)).getD [] ++
    if c.runMemleaks then r.memleaks.sdkFrameworks else []

/-- The settings of a target that is linked against a host or none and needs some frameworks, for a
version of the system. -/
def settingsFor (host : Option HostApp) (frameworks : List String) (minimumOs : String) :
    Settings :=
  (host.map fun h =>
      ("OTHER_LDFLAGS", "-bundle -bundle_loader " ++ h.linkedBinary.path)).toList ++
    (if frameworks = [] then [] else [("SDK_FRAMEWORKS", " ".intercalate frameworks)]) ++
    [("IPHONEOS_DEPLOYMENT_TARGET", minimumOs)]

lemma host_eq : r.answers.host a = r.loaderOf a := by
  rw [Answers.host, Answers.mode_eq, loaderOf]
  split_ifs <;> rfl

/-! ### Frameworks -/

/-- The frameworks of the common library are those needed, each once. -/
lemma firstSeen_common :
    FirstSeen (r.neededFrameworks a c) (r.answers.common a c).library.sdkFrameworks := by
  have seen := (ownLibrary a a.mode.sdkFrameworks).firstSeen_union
    (r.librariesOf a.deps ++ r.answers.libraries a c) .sdkFrameworks
  have stream : Library.stream (ownLibrary a a.mode.sdkFrameworks ::
      (r.librariesOf a.deps ++ r.answers.libraries a c)) .sdkFrameworks =
        r.neededFrameworks a c := by
    rw [Answers.libraries, host_eq, neededFrameworks, ← Answers.sdkFrameworks_eq]
    -- the library of a host and the one for leaks are there or not
    cases r.loaderOf a <;> cases c.runMemleaks <;>
      simp [Library.stream, Library.entries, ownLibrary, librariesOf, answers]
  rwa [stream] at seen

/-! ### Settings -/

lemma nodup_settingsFor (host : Option HostApp) (frameworks : List String) (minimumOs : String) :
    ((settingsFor host frameworks minimumOs).map Prod.fst).Nodup := by
  have among : ((settingsFor host frameworks minimumOs).map Prod.fst).Sublist
      ["OTHER_LDFLAGS", "SDK_FRAMEWORKS", "IPHONEOS_DEPLOYMENT_TARGET"] := by
    rw [settingsFor]
    cases host <;> split_ifs <;> simp
  exact among.nodup (by decide)

lemma wordsSetting_eq (name : String) (words : List String) :
    wordsSetting name words = if words = [] then [] else [(name, " ".intercalate words)] := by
  simp only [wordsSetting, List.isEmpty_iff]

/-- Only a target with a host has a setting for the arguments of the linker. -/
lemma linkerSettings_eq (host : Option HostApp) :
    wordsSetting linkerSetting (host.elim LinkPlan.forApplication .forHost).extraLinkArgs =
      (host.map fun h =>
        ("OTHER_LDFLAGS", "-bundle -bundle_loader " ++ h.linkedBinary.path)).toList := by
  cases host with
  | none => rfl
  | some h =>
    have words : " ".intercalate (LinkPlan.forHost h).extraLinkArgs =
        "-bundle -bundle_loader " ++ h.linkedBinary.path := by
      rw [LinkPlan.forHost, LinkPlan.loaderArgs, List.cons_append, List.cons_append,
        List.nil_append, String.intercalate_cons_cons, String.intercalate_cons_cons,
        String.intercalate_singleton, ← String.append_assoc]
      rfl
    exact congrArg (fun arguments => [(linkerSetting, arguments)]) words

lemma settings_eq :
    r.answers.settings a c =
      if r.Unhosted a then []
      else settingsFor (r.loaderOf a) (r.answers.common a c).library.sdkFrameworks c.minimumOs := by
  rw [Answers.settings]
  by_cases hostless : r.answers.Hostless a
  · rw [if_pos hostless, if_pos ((r.hostless_iff a).mp hostless)]
    rfl
  · rw [if_neg hostless, if_neg (mt (r.hostless_iff a).mpr hostless),
      r.answers_bundle a c hostless, settingsFor, ← linkerSettings_eq, ← wordsSetting_eq,
      ← host_eq]
    -- compiling and linking sets the first two, and resources set nothing
    exact List.append_nil _

lemma nodup_settings : ((r.answers.settings a c).map Prod.fst).Nodup := by
  rw [settings_eq]
  split_ifs
  · exact List.nodup_nil
  · exact nodup_settingsFor _ _ _

/-- The project that a description of a build from a registry offers has the settings that the
answers bring. -/
lemma ideProject_of_yields {d : Description} (yields : r.answers.Yields a c d) :
    ∃ info, d.ideProject = some info ∧ info.settings = (r.answers.settings a c).eraseDups := by
  have project : ∃ info, (r.answers.project a c).project = .capability (.ideProject info) ∧
      info.settings = (r.answers.settings a c).eraseDups :=
    ⟨_, rfl, congrArg List.eraseDups (r.answers.settings_eq a c)⟩
  obtain ⟨info, project, settings⟩ := project
  refine ⟨info, ?_, settings⟩
  rw [Description.ideProject_eq_some_iff, yields.capability, Answers.supplies, project]
  exact ⟨.head _, rfl⟩

/-! ### Main result -/

/-- A build from a registry ends with a description that offers a project, the same whatever was
done before.  A hosted unit test without a known host has no settings; for any other target they are
the arguments of the linker, which a host brings with it, the frameworks that are needed, each once
and in the order in which they are first seen, and the least version of the system.  No name of a
setting stands there twice. -/
theorem settings_exact :
    ∃ (d : Description) (info : ProjectInfo) (frameworks : List String),
      (∀ p, (Assembly.runFrom p (Assembly.assemble r.resolver a c)).1 = .ok d) ∧
      d.ideProject = some info ∧ FirstSeen (r.neededFrameworks a c) frameworks ∧
      info.settings =
        (if r.Unhosted a then [] else settingsFor (r.loaderOf a) frameworks c.minimumOs) ∧
      (info.settings.map Prod.fst).Nodup := by
  obtain ⟨d, yields, run⟩ := r.exists_assembled a c
  obtain ⟨info, offered, settings⟩ := r.ideProject_of_yields a c yields
  -- settings with different names are different, so none of them is left out
  have nodup := r.nodup_settings a c
  rw [eraseDups_eq_self nodup.of_map] at settings
  refine ⟨d, info, (r.answers.common a c).library.sdkFrameworks, fun p => ?_, offered,
    r.firstSeen_common a c, ?_, settings ▸ nodup⟩
  · obtain ⟨q, ran, -⟩ := run p
    rw [ran]
  · rw [settings, settings_eq]

end TargetAssembly.Registry
