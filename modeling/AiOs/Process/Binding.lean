import AiOs.Process.Delivery

/-! Capability mounts and the Task they are for: every capability is mounted once, no mount
hides an earlier one, a run is refused unless the mounts are the Task's, and the launcher binds
each destination to the object that was opened for it. -/
namespace AiOs.ProcessAdapter

open OsString

variable {δ : Type}

def StrictlyBelow (path other : String) : Prop :=
  components (osStr other) <+: components (osStr path) ∧
    components (osStr other) ≠ components (osStr path)

instance : Std.TransCmp compareDepth :=
  inferInstanceAs (Std.TransCmp (compareLex
    (compareOn (fun capability : FileCapability => pathDepth capability.path))
    (compareOn FileCapability.path)))

theorem pathDepth_le {left right : FileCapability}
    (ordered : (compareDepth left right).isLE = true) : pathDepth left.path ≤ pathDepth right.path := by
  by_contra deeper
  have later : compare (pathDepth left.path) (pathDepth right.path) = .gt :=
    Nat.compare_eq_gt.mpr (Nat.lt_of_not_le deeper)
  simp [compareDepth, later] at ordered

theorem pathDepth_lt {path other : String} (below : StrictlyBelow path other) :
    pathDepth other < pathDepth path := by
  have length := below.1.length_le
  refine Nat.lt_of_le_of_ne length fun same => below.2 ?_
  exact below.1.eq_of_length same

/-- Sorting by depth never puts a location behind one below it. -/
theorem sorted_not_below (capabilities : List FileCapability) :
    (sortBy compareDepth capabilities).Pairwise (fun earlier later =>
      ¬ StrictlyBelow earlier.path later.path) := by
  refine (sortBy_pairwise compareDepth capabilities).imp ?_
  intro earlier later ordered below
  have depth := pathDepth_le ordered
  have deeper := pathDepth_lt below
  omega

theorem openCapability_of_mountable {root : List PathComponent → Option δ}
    {capability : FileCapability} (mountable : Mountable capability)
    (present : (root (components (osStr capability.path)).tail).isSome = true) :
    ∃ mount, openCapability root capability = .ok mount := by
  have absolute := ((validateSandboxAbsolutePath_iff _).mp mountable.path).1
  obtain ⟨object, found⟩ := Option.isSome_iff_exists.mp present
  have shape : components (osStr capability.path) =
      .rootDir :: (components (osStr capability.path)).tail := by
    simp [components, absolute]
  refine ⟨⟨capability, object⟩, ?_⟩
  unfold openCapability
  rw [shape]
  simp only [bind_ok, orError_ok, pure_ok]
  exact ⟨object, found, rfl⟩

theorem openCapabilities_total {host : Host δ} {sourceRoot : OsString}
    {root : List PathComponent → Option δ} {capabilities : List FileCapability}
    (opened : host.openDirectory sourceRoot = some root)
    (each : ∀ capability ∈ capabilities, ∃ mount, openCapability root capability = .ok mount) :
    ∃ mounts, openCapabilities host sourceRoot capabilities = .ok mounts := by
  have all : ∀ ordered : List FileCapability,
      (∀ capability ∈ ordered, ∃ mount, openCapability root capability = .ok mount) →
      ∃ mounts, List.Forall₂ (fun capability mount => openCapability root capability = .ok mount)
        ordered mounts := by
    intro ordered
    induction ordered with
    | nil => exact fun _ => ⟨[], .nil⟩
    | cons capability rest ih =>
      intro each
      obtain ⟨first, later⟩ := List.forall_mem_cons.mp each
      obtain ⟨mount, found⟩ := first
      obtain ⟨mounts, pairs⟩ := ih later
      exact ⟨mount :: mounts, .cons found pairs⟩
  obtain ⟨mounts, pairs⟩ := all (sortBy compareDepth capabilities)
    (fun capability member => each capability (mem_sortBy.mp member))
  refine ⟨mounts, ?_⟩
  simp only [openCapabilities, bind_ok, orError_ok, Fallible.except_mapM_ok]
  exact ⟨root, opened, pairs⟩

theorem filesystemCapabilitiesMatch_iff (expected : List FileCapability)
    (mounted : List (FilesystemCapabilityMount δ)) :
    filesystemCapabilitiesMatch expected mounted = true ↔
      (expected.map capabilityKey).Perm
        (mounted.map fun mount => capabilityKey mount.capability) := by
  unfold filesystemCapabilitiesMatch
  by_cases length : expected.length = mounted.length
  · simp only [length, bne_self_eq_false, Bool.false_eq_true, ↓reduceIte, beq_iff_eq]
    exact sortBy_eq_iff_perm compareKeys
  · have other : (expected.length != mounted.length) = true := by simpa using length
    simp only [other, ↓reduceIte, Bool.false_eq_true, false_iff]
    intro perm
    exact length (by simpa using perm.length_eq)

theorem executeForTask_match {handler : ProcessToolHandler δ} {sandbox : Bubblewrap δ}
    (sandboxed : handler.launcher = .bubblewrap sandbox) {site : Site δ}
    {context : TaskExecutionContext} {arguments : List String} {launch : Launch δ}
    (spawned : handler.executeForTask site context arguments = .ok launch) :
    filesystemCapabilitiesMatch context.filesystemCapabilities
      sandbox.filesystemCapabilityMounts = true := by
  simp only [ProcessToolHandler.executeForTask, bind_ok, check_ok] at spawned
  obtain ⟨_, _, timing, chosen, _⟩ := spawned
  unfold ProcessToolHandler.taskTimeout at chosen
  rw [sandboxed] at chosen
  dsimp only at chosen
  split at chosen
  · cases chosen
  · simp only [bind_ok, mapError_ok, check_ok, Bool.and_eq_true] at chosen
    obtain ⟨_, _, _, agrees, _⟩ := chosen
    exact agrees.2

/-- A launcher that became another program passed all its checks. -/
theorem ready_of_runPlan {site : LauncherSite δ} {plan : LaunchPlan} {image : Image}
    (run : runPlan site plan = some image) : ∃ received, Ready site plan received := by
  unfold runPlan at run
  split at run
  · rename_i legacy
    unfold runLegacy at run
    split at run
    · rename_i checks
      simp only [Bool.and_eq_true] at checks
      refine ⟨[], checks.1.1, checks.1.2, checks.2, fun broker => ?_⟩
      cases legacy.symm.trans broker
    · cases run
  · unfold runDescriptorBroker at run
    split at run
    · rename_i checks
      simp only [Bool.and_eq_true] at checks
      simp only [Option.bind_eq_bind, Option.bind_eq_some_iff] at run
      obtain ⟨received, receives, run⟩ := run
      split at run
      · cases run
      rename_i count
      split at run
      · cases run
      rename_i numbers
      split at run
      · cases run
      rename_i joined
      simp only [Option.bind_eq_some_iff] at run
      obtain ⟨delimiter, _, run⟩ := run
      split at run
      · cases run
      rename_i cleared
      refine ⟨received, checks.1, checks.2, by simpa using joined, fun _ =>
        ⟨receives, not_not.mp count, ?_, by simpa using cleared⟩⟩
      simpa using numbers
    · cases run

/-- The private channel delivers the objects that were sent, in their order. -/
def Delivers (site : LauncherSite δ) (launch : Launch δ) : Prop :=
  ∀ sent received, launch.descriptors = some sent → site.receive = some received →
    received.map ReceivedDescriptor.object = sent

/-- Each destination is bound to the object that was opened for its path. -/
theorem destinations_bound {builder : BubblewrapProcessToolBuilder} {host : Host δ}
    (lawful : host.Lawful) {handler : ProcessToolHandler δ}
    (built : builder.build host = .ok handler) {site : Site δ} {dynamicArguments : List String}
    {timeout : Duration} {authorized : Bool} {launch : Launch δ}
    (prepared : handler.prepare site dynamicArguments timeout authorized = .ok launch)
    {sandbox : Bubblewrap δ} (sandboxed : handler.launcher = .bubblewrap sandbox)
    (mounted : sandbox.filesystemCapabilityMounts ≠ []) {launcherSite : LauncherSite δ}
    (delivers : Delivers launcherSite launch) {image : Image}
    (started : handler.image launcherSite launch.command = some image) :
    ∃ seccomp, ∃ policy : ReceivedDescriptor δ, ∃ objects, site.seccompFilter = .ok seccomp ∧
      policy.object = seccomp.descriptor ∧
      objects.map ReceivedDescriptor.object =
        sandbox.filesystemCapabilityMounts.map FilesystemCapabilityMount.descriptor ∧
      image.arguments = bubblewrapOptions sandbox.rootFilesystem handler.workingDirectory none
        ++ ([osStr "--seccomp", osStr (toString policy.rawFd)]
          ++ ((sandbox.filesystemCapabilityMounts.map (fun mount => osStr mount.capability.path)).zip
            objects).flatMap bindArguments)
        ++ toolArguments handler sandbox dynamicArguments := by
  obtain ⟨sandbox', seccomp, sandboxes, created, accepted, launches⟩ :=
    prepare_sandboxed lawful built prepared
  obtain rfl : sandbox' = sandbox :=
    ProcessLauncher.bubblewrap.inj (sandboxes.launcher.symm.trans sandboxed)
  obtain ⟨cgroup, present⟩ : ∃ cgroup, sandbox'.cgroupLaunch = some cgroup := by
    cases absent : sandbox'.cgroupLaunch with
    | none => exact absurd (launches.bound absent) mounted
    | some cgroup => exact ⟨cgroup, rfl⟩
  have nonempty : sandbox'.filesystemCapabilityMounts.isEmpty = false := by simpa using mounted
  have sent : launch.descriptors =
      some (sentDescriptors seccomp sandbox'.filesystemCapabilityMounts) := by
    rw [launches.descriptors, handover, present]
    simp [nonempty]
  obtain ⟨_, plan, meant, decoded, follows⟩ :=
    (launches.reaches sandboxes accepted).launcher cgroup present
  have through : handler.taskCgroup.isSome = true := by
    simp [ProcessToolHandler.taskCgroup, sandboxed, present]
  rw [ProcessToolHandler.image, if_pos through] at started
  have run := started
  rw [runLauncher, decoded, Option.bind_some] at run
  obtain ⟨received, ready⟩ := ready_of_runPlan run
  have broker : plan.mode = .descriptorBroker := by simp [meant, meantPlan, nonempty]
  obtain ⟨receives, _, _, _⟩ := ready.2.2.2 broker
  have objects := delivers _ received sent receives
  rw [follows launcherSite received ready] at started
  cases Option.some.inj started
  cases received with
  | nil => cases objects
  | cons policy objects' =>
    obtain ⟨first, rest⟩ := List.cons.inj objects
    refine ⟨seccomp, policy, objects', created, first, rest, ?_⟩
    simp [execCleared, finalOptions, nonempty, descriptorArguments]

theorem buildMounts_opened {builder : BubblewrapProcessToolBuilder} {host : Host δ}
    {mounts : List (FilesystemCapabilityMount δ)} (built : builder.buildMounts host = .ok mounts)
    (mounted : mounts ≠ []) : ∃ sourceRoot root, host.openDirectory sourceRoot = some root ∧
      ∀ mount ∈ mounts, openCapability root mount.capability = .ok mount := by
  unfold BubblewrapProcessToolBuilder.buildMounts at built
  split at built
  · unfold openFilesystemCapabilities at built
    split at built
    · exact absurd (Except.ok.inj built).symm mounted
    · simp only [bind_ok] at built
      obtain ⟨sourceRoot, _, _, _, opened⟩ := built
      obtain ⟨_, root, found, each⟩ := openCapabilities_ok opened
      exact ⟨sourceRoot, root, found, each⟩
  · exact absurd (Except.ok.inj built).symm mounted

/-- Capability mounts are complete and ordered, belong to the Task that runs, and are bound under
the paths they were opened for. -/
theorem capability_mounts_bound :
    (∀ (host : Host δ) (sourceRoot : OsString) (root : List PathComponent → Option δ)
      (capabilities : List FileCapability), validateCapabilities capabilities = .ok () →
      host.openDirectory sourceRoot = some root →
      (∀ capability ∈ capabilities,
        (root (components (osStr capability.path)).tail).isSome = true) →
      ∃ mounts, openCapabilities host sourceRoot capabilities = .ok mounts ∧
        (mounts.map FilesystemCapabilityMount.capability).Perm capabilities ∧
        (∀ mount ∈ mounts, mount.capability.access = .read ∧
          openCapability root mount.capability = .ok mount) ∧
        mounts.Pairwise (fun earlier later =>
          ¬ StrictlyBelow earlier.capability.path later.capability.path)) ∧
    (∀ (expected : List FileCapability) (mounted : List (FilesystemCapabilityMount δ)),
      filesystemCapabilitiesMatch expected mounted = true ↔ (expected.map capabilityKey).Perm
        (mounted.map fun mount => capabilityKey mount.capability)) ∧
    (∀ (handler : ProcessToolHandler δ) (sandbox : Bubblewrap δ) (site : Site δ)
      (context : TaskExecutionContext) (arguments : List String) (launch : Launch δ),
      handler.launcher = .bubblewrap sandbox →
      handler.executeForTask site context arguments = .ok launch →
      (context.filesystemCapabilities.map capabilityKey).Perm
        (sandbox.filesystemCapabilityMounts.map fun mount => capabilityKey mount.capability)) ∧
    (∀ (builder : BubblewrapProcessToolBuilder) (host : Host δ) (handler : ProcessToolHandler δ)
      (sandbox : Bubblewrap δ) (site : Site δ) (dynamicArguments : List String)
      (timeout : Duration) (authorized : Bool) (launch : Launch δ)
      (launcherSite : LauncherSite δ) (image : Image), host.Lawful →
      builder.build host = .ok handler → handler.launcher = .bubblewrap sandbox →
      sandbox.filesystemCapabilityMounts ≠ [] →
      handler.prepare site dynamicArguments timeout authorized = .ok launch →
      Delivers launcherSite launch → handler.image launcherSite launch.command = some image →
      (∃ sourceRoot root, host.openDirectory sourceRoot = some root ∧
        ∀ mount ∈ sandbox.filesystemCapabilityMounts,
          openCapability root mount.capability = .ok mount) ∧
      ∃ seccomp, ∃ policy : ReceivedDescriptor δ, ∃ objects, site.seccompFilter = .ok seccomp ∧
        policy.object = seccomp.descriptor ∧
        objects.map ReceivedDescriptor.object =
          sandbox.filesystemCapabilityMounts.map FilesystemCapabilityMount.descriptor ∧
        image.arguments = bubblewrapOptions sandbox.rootFilesystem handler.workingDirectory none
          ++ ([osStr "--seccomp", osStr (toString policy.rawFd)]
            ++ ((sandbox.filesystemCapabilityMounts.map (fun mount => osStr mount.capability.path)).zip
              objects).flatMap bindArguments)
          ++ toolArguments handler sandbox dynamicArguments) := by
  refine ⟨?_, filesystemCapabilitiesMatch_iff, ?_, ?_⟩
  · intro host sourceRoot root capabilities accepted opened present
    obtain ⟨_, mountable, _⟩ := (validateCapabilities_iff capabilities).mp accepted
    obtain ⟨mounts, found⟩ := openCapabilities_total opened fun capability member =>
      openCapability_of_mountable (mountable capability member) (present capability member)
    obtain ⟨sorted, root', opened', each⟩ := openCapabilities_ok found
    obtain rfl : root = root' := Option.some.inj (opened.symm.trans opened')
    have perm : (mounts.map FilesystemCapabilityMount.capability).Perm capabilities :=
      sorted ▸ sortBy_perm _ _
    refine ⟨mounts, found, perm, ?_, ?_⟩
    · intro mount member
      exact ⟨(mountable _ (perm.subset (List.mem_map_of_mem member))).read, each mount member⟩
    · have order := sorted_not_below capabilities
      rw [← sorted, List.pairwise_map] at order
      exact order
  · intro handler sandbox site context arguments launch sandboxed spawned
    exact (filesystemCapabilitiesMatch_iff _ _).mp (executeForTask_match sandboxed spawned)
  · intro builder host handler sandbox site dynamicArguments timeout authorized launch launcherSite
      image lawful built sandboxed mounted prepared delivers started
    obtain ⟨sandbox', sandboxes⟩ := build_sandboxes lawful built
    obtain rfl : sandbox' = sandbox :=
      ProcessLauncher.bubblewrap.inj (sandboxes.launcher.symm.trans sandboxed)
    exact ⟨buildMounts_opened sandboxes.mounts mounted,
      destinations_bound lawful built prepared sandboxed mounted delivers started⟩

open AiOs.ProcessAdapter.Sample in
/-- A run of a handler with one mount, from the builder to Bubblewrap. -/
theorem capability_mounts_bound_opt : ∃ handler sandbox launch image,
    (builder [⟨"/opt", .read⟩] []).build host = .ok handler ∧
      handler.launcher = .bubblewrap sandbox ∧ sandbox.filesystemCapabilityMounts ≠ [] ∧
      handler.prepare site [] (Duration.fromSecs 1) true = .ok launch ∧
      Delivers launcherSite launch ∧ handler.image launcherSite launch.command = some image ∧
      ∃ seccomp, ∃ policy : ReceivedDescriptor String, ∃ objects,
        site.seccompFilter = .ok seccomp ∧ policy.object = seccomp.descriptor ∧
        objects.map ReceivedDescriptor.object =
          sandbox.filesystemCapabilityMounts.map FilesystemCapabilityMount.descriptor ∧
        image.arguments = bubblewrapOptions sandbox.rootFilesystem handler.workingDirectory none
          ++ ([osStr "--seccomp", osStr (toString policy.rawFd)]
            ++ ((sandbox.filesystemCapabilityMounts.map (fun mount => osStr mount.capability.path)).zip
              objects).flatMap bindArguments)
          ++ toolArguments handler sandbox [] := by
  have reached : (follow ((builder [⟨"/opt", .read⟩] []).build host)).isSome = true := by
    decide +kernel
  have sends : (attempt [⟨"/opt", .read⟩] [] []).toOption.bind Launch.descriptors =
      some ["policy", "opt"] := by decide +kernel
  obtain ⟨image, followed⟩ := Option.isSome_iff_exists.mp reached
  obtain ⟨handler, launch, built, prepared, started⟩ := follow_some followed
  obtain ⟨sandbox, sandboxes⟩ := build_sandboxes host_lawful built
  have sent : launch.descriptors = some ["policy", "opt"] := by
    have ran : attempt [⟨"/opt", .read⟩] [] [] = .ok launch := by
      simp only [attempt, bind_ok]
      exact ⟨handler, built, prepared⟩
    rw [ran] at sends
    exact sends
  have delivers : Delivers launcherSite launch := by
    intro objects received sending receives
    cases Option.some.inj (sent.symm.trans sending)
    cases Option.some.inj receives
    rfl
  have mounted : sandbox.filesystemCapabilityMounts ≠ [] := by
    have opens : ((builder [⟨"/opt", .read⟩] []).buildMounts host).toOption.all
        (fun mounts => mounts.isEmpty) = false := by decide +kernel
    rw [sandboxes.mounts] at opens
    simpa [Except.toOption] using opens
  exact ⟨handler, sandbox, launch, image, built, sandboxes.launcher, mounted, prepared, delivers,
    started, (capability_mounts_bound.2.2.2 _ host handler sandbox site [] _ true launch launcherSite
      image host_lawful built sandboxes.launcher mounted prepared delivers started).2⟩

end AiOs.ProcessAdapter
