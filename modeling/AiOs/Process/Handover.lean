import AiOs.Process.Launcher

/-! From the handler's plan to the process that runs: what a built handler knows about its own
paths, the vector a run hands to the launcher, and what the launcher makes of it. -/
namespace AiOs.ProcessAdapter

open OsString

variable {δ : Type}

/-- What `build` establishes for a sandboxed handler. -/
structure Sandboxes (builder : BubblewrapProcessToolBuilder) (host : Host δ)
    (handler : ProcessToolHandler δ) (sandbox : Bubblewrap δ) : Prop where
  launcher : handler.launcher = .bubblewrap sandbox
  root : isAbsolute sandbox.rootFilesystem = true
  scratch : isAbsolute handler.workingDirectory = true
  environment : validateEnvironment builder.environment = .ok handler.environment
  mounts : builder.buildMounts host = .ok sandbox.filesystemCapabilityMounts
  cgroup : builder.buildCgroupLaunch host = .ok sandbox.cgroupLaunch

theorem build_ok {builder : BubblewrapProcessToolBuilder} {host : Host δ}
    {handler : ProcessToolHandler δ} (built : builder.build host = .ok handler) :
    ∃ sandbox, handler.launcher = .bubblewrap sandbox ∧
      canonicalSandboxRoot host builder.rootFilesystem = .ok sandbox.rootFilesystem ∧
      canonicalScratchDirectory host builder.scratchDirectory sandbox.rootFilesystem =
        .ok handler.workingDirectory ∧
      validateEnvironment builder.environment = .ok handler.environment ∧
      builder.buildMounts host = .ok sandbox.filesystemCapabilityMounts ∧
      builder.buildCgroupLaunch host = .ok sandbox.cgroupLaunch := by
  simp only [BubblewrapProcessToolBuilder.build, bind_ok, check_ok, pure_ok] at built
  obtain ⟨_, _, _, _, _, _, _, _, _, _, _, _, bubblewrap, _, identity, _, root, foundRoot, _, _,
    _, _, scratch, foundScratch, _, _, ⟨executable, executableIdentity, inside⟩, _, environment,
    validated, mounts, opened, cgroup, launcher, rfl⟩ := built
  exact ⟨_, rfl, foundRoot, foundScratch, validated, opened, launcher⟩

theorem build_sandboxes {builder : BubblewrapProcessToolBuilder} {host : Host δ}
    (lawful : host.Lawful) {handler : ProcessToolHandler δ}
    (built : builder.build host = .ok handler) :
    ∃ sandbox, Sandboxes builder host handler sandbox := by
  obtain ⟨sandbox, launcher, root, scratch, environment, mounts, cgroup⟩ := build_ok built
  simp only [canonicalSandboxRoot, bind_ok, mapError_ok, check_ok, pure_ok] at root
  obtain ⟨_, root, _, _, rfl⟩ := root
  simp only [canonicalScratchDirectory, bind_ok, mapError_ok, check_ok, pure_ok] at scratch
  obtain ⟨_, scratch, _, _, rfl⟩ := scratch
  exact ⟨sandbox, launcher, canonicalDirectory_absolute lawful root,
    canonicalDirectory_absolute lawful scratch, environment, mounts, cgroup⟩

theorem buildDirect_direct {builder : ProcessToolBuilder} {host : Host δ}
    {handler : ProcessToolHandler δ} (built : builder.build host = .ok handler) :
    handler.launcher = .direct ∧
      validateEnvironment builder.environment = .ok handler.environment := by
  simp only [ProcessToolBuilder.build, bind_ok, check_ok, pure_ok] at built
  obtain ⟨_, _, _, _, _, _, _, _, _, _, environment, validated, rfl⟩ := built
  exact ⟨rfl, validated⟩

theorem prepare_ok {handler : ProcessToolHandler δ} {site : Site δ} {dynamicArguments : List String}
    {timeout : Duration} {authorized : Bool} {launch : Launch δ}
    (prepared : handler.prepare site dynamicArguments timeout authorized = .ok launch) :
    validateArguments handler.fixedArguments dynamicArguments = .ok () ∧
      (handler.launcher = .direct ∧ launch = handler.directLaunch dynamicArguments ∨
        ∃ sandbox, handler.launcher = .bubblewrap sandbox ∧
          handler.sandboxLaunch sandbox site dynamicArguments authorized = .ok launch) := by
  simp only [ProcessToolHandler.prepare, bind_ok, check_ok, pure_ok] at prepared
  obtain ⟨_, _, _, arguments, _, _, identity, _, _, _, _, _, found, command, _, _, _, _, rfl⟩ :=
    prepared
  refine ⟨arguments, ?_⟩
  unfold ProcessToolHandler.launchFor at command
  split at command
  · rename_i launcher
    exact .inl ⟨launcher, (Except.ok.inj command).symm⟩
  · rename_i sandbox launcher
    exact .inr ⟨sandbox, launcher, command⟩

/-- Arguments in front of Bubblewrap's, the program that gets them, and the objects sent. -/
def handover (sandbox : Bubblewrap δ) (seccomp : SeccompFilterFile δ) :
    OsString × List OsString × Option (List δ) :=
  match sandbox.cgroupLaunch with
  | none => (sandbox.bubblewrap, [], none)
  | some launch =>
    (launch.launcher,
      launcherArguments launch.taskCgroup sandbox.bubblewrap sandbox.filesystemCapabilityMounts,
      if sandbox.filesystemCapabilityMounts.isEmpty then none
      else some (sentDescriptors seccomp sandbox.filesystemCapabilityMounts))

theorem sandboxCommand_ok {sandbox : Bubblewrap δ} {seccomp : SeccompFilterFile δ} {site : Site δ}
    {result : OsString × List OsString × Option (List δ)}
    (found : ProcessToolHandler.sandboxCommand sandbox seccomp site = .ok result) :
    result = handover sandbox seccomp ∧
      (sandbox.cgroupLaunch = none → sandbox.filesystemCapabilityMounts = []) := by
  simp only [ProcessToolHandler.sandboxCommand, bind_ok, check_ok] at found
  obtain ⟨identity, _, _, _, _, _, _, _, command⟩ := found
  unfold handover
  cases cgroup : sandbox.cgroupLaunch with
  | none =>
    rw [cgroup] at command
    simp only [bind_ok, check_ok, pure_ok, List.isEmpty_iff] at command
    obtain ⟨_, empty, rfl⟩ := command
    exact ⟨rfl, fun _ => empty⟩
  | some launch =>
    rw [cgroup] at command
    refine ⟨?_, fun absent => by cases absent⟩
    dsimp only at command ⊢
    split at command
    · rename_i empty
      rw [if_pos empty]
      exact (Except.ok.inj command).symm
    · rename_i present
      simp only [bind_ok, pure_ok] at command
      obtain ⟨_, _, rfl⟩ := command
      rw [if_neg present]

/-- The part of the vector that is Bubblewrap's: its options, the delimiter, and the Tool. -/
def sandboxArguments (handler : ProcessToolHandler δ) (sandbox : Bubblewrap δ)
    (seccompFd : Option Nat) (dynamicArguments : List String) : List OsString :=
  bubblewrapOptions sandbox.rootFilesystem handler.workingDirectory seccompFd
    ++ osStr "--" :: sandbox.sandboxExecutable
      :: (handler.fixedArguments ++ dynamicArguments).map osStr

/-- The command of a sandboxed run that reaches its spawn. -/
structure Launches (handler : ProcessToolHandler δ) (sandbox : Bubblewrap δ)
    (dynamicArguments : List String) (seccomp : SeccompFilterFile δ) (authorized : Bool)
    (launch : Launch δ) : Prop where
  authorized : sandbox.filesystemCapabilityMounts = [] ∨ authorized = true
  bound : sandbox.cgroupLaunch = none → sandbox.filesystemCapabilityMounts = []
  program : launch.command.program = (handover sandbox seccomp).1
  arguments : launch.command.arguments = (handover sandbox seccomp).2.1
    ++ sandboxArguments handler sandbox (sandbox.seccompFd seccomp) dynamicArguments
  environment : launch.command.environment = handler.environment
  descriptors : launch.descriptors = (handover sandbox seccomp).2.2

theorem sandboxLaunch_ok {handler : ProcessToolHandler δ} {sandbox : Bubblewrap δ} {site : Site δ}
    {dynamicArguments : List String} {authorized : Bool} {launch : Launch δ}
    (found : handler.sandboxLaunch sandbox site dynamicArguments authorized = .ok launch) :
    ∃ seccomp, site.seccompFilter = .ok seccomp ∧
      Launches handler sandbox dynamicArguments seccomp authorized launch := by
  simp only [ProcessToolHandler.sandboxLaunch, bind_ok, check_ok, pure_ok, Bool.or_eq_true,
    List.isEmpty_iff] at found
  obtain ⟨_, allowed, seccomp, created, result, command, rfl⟩ := found
  obtain ⟨rfl, bound⟩ := sandboxCommand_ok command
  refine ⟨seccomp, created, allowed, bound, rfl, ?_, rfl, rfl⟩
  simp [bubblewrapArguments, sandboxArguments]

theorem absolute_ne_osStr {path : OsString} {text : String} (absolute : isAbsolute path = true)
    (option : text.toList.head? ≠ some '/') : path ≠ osStr text := by
  rintro rfl
  exact option ((isAbsolute_osStr text).mp absolute)

theorem toString_ne_delimiter (n : Nat) : osStr (toString n) ≠ osStr "--" := by
  intro same
  have text : toString n = "--" := osStr_inj same
  have digit : '-'.isDigit = true := by
    refine isDigit_of_mem_toString (n := n) ?_
    rw [text]
    decide
  exact absurd digit (by decide)

theorem delimiter_not_mem_options {rootFilesystem scratchDirectory : OsString}
    (root : isAbsolute rootFilesystem = true) (scratch : isAbsolute scratchDirectory = true)
    (seccompFd : Option Nat) :
    osStr "--" ∉ bubblewrapOptions rootFilesystem scratchDirectory seccompFd := by
  have rootOther := absolute_ne_osStr root (by decide : "--".toList.head? ≠ some '/')
  have scratchOther := absolute_ne_osStr scratch (by decide : "--".toList.head? ≠ some '/')
  have literals : osStr "--" ∉ ["--unshare-all", "--unshare-user", "--disable-userns",
      "--die-with-parent", "--new-session"].map osStr := by decide
  unfold bubblewrapOptions
  simp only [List.mem_append, List.mem_cons, List.not_mem_nil, or_false, not_or]
  refine ⟨⟨literals, ?_⟩, by decide, by decide, by decide, rootOther.symm, by decide, by decide,
    by decide, by decide, by decide, by decide, by decide, by decide, scratchOther.symm, by decide,
    by decide, by decide⟩
  cases seccompFd with
  | none => exact List.not_mem_nil
  | some fd =>
    have number := toString_ne_delimiter fd
    simp only [List.mem_cons, List.not_mem_nil, or_false, not_or]
    exact ⟨by decide, number.symm⟩

theorem length_bubblewrapOptions (rootFilesystem scratchDirectory : OsString)
    (seccompFd : Option Nat) :
    (bubblewrapOptions rootFilesystem scratchDirectory seccompFd).length =
      21 + 2 * seccompFd.toList.length := by
  cases seccompFd <;> simp [bubblewrapOptions]

theorem validateArguments_length {fixed dynamic : List String}
    (accepted : validateArguments fixed dynamic = .ok ()) :
    fixed.length + dynamic.length ≤ maxArguments := by
  unfold validateArguments at accepted
  split at accepted
  · cases accepted
  · rename_i count counted
    have sum := checkedAdd_some counted
    split at accepted
    · cases accepted
    · omega

theorem length_sandboxArguments {handler : ProcessToolHandler δ} {dynamicArguments : List String}
    (accepted : validateArguments handler.fixedArguments dynamicArguments = .ok ())
    (sandbox : Bubblewrap δ) (seccompFd : Option Nat) :
    (sandboxArguments handler sandbox seccompFd dynamicArguments).length ≤
      23 + 2 * seccompFd.toList.length + maxArguments := by
  have count := validateArguments_length accepted
  simp only [sandboxArguments, List.length_append, length_bubblewrapOptions, List.length_cons,
    List.length_map]
  omega

theorem parseWord_toString (n : UInt64) : parseWord (osStr (toString n.toNat)) = some n.toNat := by
  rw [parseWord, intoString_osStr, Option.bind_some]
  exact parseUnsigned_toString n.toNat_lt

theorem parseWord_count {n : Nat} (small : n ≤ maxFilesystemCapabilityMounts) :
    parseWord (osStr (toString n)) = some n := by
  rw [parseWord, intoString_osStr, Option.bind_some]
  exact parseUnsigned_toString (Nat.lt_of_le_of_lt small (by decide))

/-- The launcher's path check is the builder's, without the search for NUL bytes. -/
theorem validateSandboxPath_of_builder {path : OsString}
    (accepted : validateSandboxAbsolutePath path = .ok ()) : validateSandboxPath path = true := by
  obtain ⟨absolute, short, _, _⟩ := (validateSandboxAbsolutePath_iff path).mp accepted
  have length : path.length ≤ maxLauncherPathBytes := short
  unfold validateSandboxAbsolutePath at accepted
  split at accepted
  · cases accepted
  · unfold validateSandboxPath
    rw [absolute, decide_eq_true length]
    generalize path.components = parts at accepted ⊢
    cases parts with
    | nil => cases accepted
    | cons first rest =>
      cases first with
      | rootDir =>
        dsimp only at accepted
        split at accepted
        · rename_i normal
          simpa using normal
        · cases accepted
      | _ => cases accepted

theorem readMounts_pairs {mounts : List (FilesystemCapabilityMount δ)}
    (mountable : ∀ mount ∈ mounts, Mountable mount.capability) (rest : List OsString) :
    readMounts mounts.length
      (mounts.flatMap (fun mount => [osStr "read", osStr mount.capability.path]) ++ rest) =
      some (mounts.map (fun mount => osStr mount.capability.path), rest) := by
  induction mounts with
  | nil => rfl
  | cons mount mounts ih =>
    obtain ⟨first, later⟩ := List.forall_mem_cons.mp mountable
    have valid := validateSandboxPath_of_builder first.path
    simp [readMounts, valid, ih later]

/-- The plan the handler means the launcher to follow. -/
def meantPlan (launch : CgroupLaunch) (sandbox : Bubblewrap δ) (childArguments : List OsString) :
    LaunchPlan where
  mode := if sandbox.filesystemCapabilityMounts.isEmpty then .legacy else .descriptorBroker
  cgroupProcs := launch.taskCgroup.launchIdentity.1
  expectedDevice := launch.taskCgroup.launchIdentity.2.1.toNat
  expectedInode := launch.taskCgroup.launchIdentity.2.2.toNat
  executable := sandbox.bubblewrap
  mounts := sandbox.filesystemCapabilityMounts.map (fun mount => osStr mount.capability.path)
  childArguments := childArguments

/-- Reading undoes writing, in both modes, as long as the limit leaves room. -/
theorem readArguments_meant {sandbox : Bubblewrap δ} (launch : CgroupLaunch) (program : OsString)
    {childArguments : List OsString}
    (short : sandbox.filesystemCapabilityMounts.length ≤ maxFilesystemCapabilityMounts)
    (mountable : ∀ mount ∈ sandbox.filesystemCapabilityMounts, Mountable mount.capability)
    (room : childArguments.length + (sandbox.filesystemCapabilityMounts.length * 3 + 2)
      ≤ maxLaunchArguments) :
    readArguments (program :: (launcherArguments launch.taskCgroup sandbox.bubblewrap
      sandbox.filesystemCapabilityMounts ++ childArguments)) =
      some (meantPlan launch sandbox childArguments) := by
  have absolute := launchIdentity_absolute launch.taskCgroup
  have other : launch.taskCgroup.launchIdentity.1 ≠ osStr "--descriptor-broker" :=
    absolute_ne_osStr absolute (by decide)
  have device := parseWord_toString launch.taskCgroup.launchIdentity.2.1
  have inode := parseWord_toString launch.taskCgroup.launchIdentity.2.2
  rw [Nat.toString_eq_repr] at device inode
  cases empty : sandbox.filesystemCapabilityMounts.isEmpty with
  | true =>
    have fits : ¬ maxLaunchArguments < childArguments.length := by omega
    have noMounts : sandbox.filesystemCapabilityMounts = [] := List.isEmpty_iff.mp empty
    simp [launcherArguments, readArguments, readLegacy, meantPlan, noMounts, other, device, inode,
      fits]
  | false =>
    have count := parseWord_count short
    rw [Nat.toString_eq_repr] at count
    have few : ¬ maxDescriptorMounts < sandbox.filesystemCapabilityMounts.length :=
      Nat.not_lt.mpr short
    have fits := Nat.not_lt.mpr room
    have pairs := readMounts_pairs mountable childArguments
    simp [launcherArguments, readArguments, readDescriptorBroker, meantPlan, empty, device, inode,
      count, few, pairs, fits]

/-- The checks of the launcher on files and descriptors all succeed. -/
def Ready (site : LauncherSite δ) (plan : LaunchPlan)
    (received : List (ReceivedDescriptor δ)) : Prop :=
  openCgroupProcs site plan = true ∧ validateExecutable site plan.executable = true ∧
    site.joinCgroup = true ∧
    (plan.mode = .descriptorBroker → site.receive = some received ∧
      received.length = plan.mounts.length + 1 ∧ (∀ descriptor ∈ received, 2 < descriptor.rawFd) ∧
      site.clearCloseOnExec = true)

/-- Options in front of the delimiter when Bubblewrap starts: the plan's, and with the broker
those for the received objects. -/
def finalOptions (handler : ProcessToolHandler δ) (sandbox : Bubblewrap δ)
    (seccomp : SeccompFilterFile δ) (received : List (ReceivedDescriptor δ)) : List OsString :=
  if sandbox.filesystemCapabilityMounts.isEmpty then
    bubblewrapOptions sandbox.rootFilesystem handler.workingDirectory (some seccomp.rawFd)
  else
    bubblewrapOptions sandbox.rootFilesystem handler.workingDirectory none
      ++ descriptorArguments
        (sandbox.filesystemCapabilityMounts.map (fun mount => osStr mount.capability.path)) received

def toolArguments (handler : ProcessToolHandler δ) (sandbox : Bubblewrap δ)
    (dynamicArguments : List String) : List OsString :=
  osStr "--" :: sandbox.sandboxExecutable :: (handler.fixedArguments ++ dynamicArguments).map osStr

theorem findIdx?_delimiter {options : List OsString} (absent : osStr "--" ∉ options)
    (rest : List OsString) :
    (options ++ osStr "--" :: rest).findIdx? (· == osStr "--") = some options.length := by
  induction options with
  | nil => simp [List.findIdx?_cons]
  | cons option options ih =>
    obtain ⟨other, absent⟩ : osStr "--" ≠ option ∧ osStr "--" ∉ options := by simpa using absent
    simp [List.findIdx?_cons, Ne.symm other, ih absent]

theorem delimiter_not_mem_descriptorArguments {mounts : List (FilesystemCapabilityMount δ)}
    (mountable : ∀ mount ∈ mounts, Mountable mount.capability)
    (received : List (ReceivedDescriptor δ)) :
    osStr "--" ∉ descriptorArguments
      (mounts.map (fun mount => osStr mount.capability.path)) received := by
  cases received with
  | nil => exact List.not_mem_nil
  | cons policy objects =>
    have number := (toString_ne_delimiter policy.rawFd).symm
    have binds : osStr "--" ∉ ((mounts.map (fun mount => osStr mount.capability.path)).zip
        objects).flatMap bindArguments := by
      rw [List.mem_flatMap]
      rintro ⟨⟨destination, object⟩, member, delimiter⟩
      obtain ⟨mount, mounted, rfl⟩ := List.mem_map.mp (List.of_mem_zip member).1
      have absolute := ((validateSandboxAbsolutePath_iff _).mp (mountable mount mounted).path).1
      have path := absolute_ne_osStr absolute (by decide : "--".toList.head? ≠ some '/')
      simp only [bindArguments, List.mem_cons, List.not_mem_nil, or_false] at delimiter
      rcases delimiter with same | same | same
      · exact absurd same (by decide)
      · exact toString_ne_delimiter object.rawFd same.symm
      · exact path same.symm
    simp only [descriptorArguments, List.mem_append, List.mem_cons, List.not_mem_nil, or_false,
      not_or]
    exact ⟨⟨by decide, number⟩, binds⟩

theorem delimiter_not_mem_finalOptions {handler : ProcessToolHandler δ} {sandbox : Bubblewrap δ}
    (root : isAbsolute sandbox.rootFilesystem = true)
    (scratch : isAbsolute handler.workingDirectory = true)
    (mountable : ∀ mount ∈ sandbox.filesystemCapabilityMounts, Mountable mount.capability)
    (seccomp : SeccompFilterFile δ) (received : List (ReceivedDescriptor δ)) :
    osStr "--" ∉ finalOptions handler sandbox seccomp received := by
  unfold finalOptions
  split
  · exact delimiter_not_mem_options root scratch _
  · rw [List.mem_append, not_or]
    exact ⟨delimiter_not_mem_options root scratch _,
      delimiter_not_mem_descriptorArguments mountable received⟩

theorem runPlan_meant {handler : ProcessToolHandler δ} {sandbox : Bubblewrap δ}
    (root : isAbsolute sandbox.rootFilesystem = true)
    (scratch : isAbsolute handler.workingDirectory = true) (launch : CgroupLaunch)
    (seccomp : SeccompFilterFile δ) (dynamicArguments : List String) (site : LauncherSite δ)
    (received : List (ReceivedDescriptor δ))
    (ready : Ready site (meantPlan launch sandbox (sandboxArguments handler sandbox
      (sandbox.seccompFd seccomp) dynamicArguments)) received) :
    runPlan site (meantPlan launch sandbox (sandboxArguments handler sandbox
      (sandbox.seccompFd seccomp) dynamicArguments)) =
      some (execCleared sandbox.bubblewrap (finalOptions handler sandbox seccomp received
        ++ toolArguments handler sandbox dynamicArguments)) := by
  obtain ⟨opened, executable, joined, broker⟩ := ready
  unfold finalOptions runPlan
  cases empty : sandbox.filesystemCapabilityMounts.isEmpty with
  | true =>
    have mode : (meantPlan launch sandbox (sandboxArguments handler sandbox
        (sandbox.seccompFd seccomp) dynamicArguments)).mode = .legacy := by
      simp [meantPlan, empty]
    have fd : sandbox.seccompFd seccomp = some seccomp.rawFd := by
      simp [Bubblewrap.seccompFd, empty]
    rw [mode]
    dsimp only
    rw [runLegacy, opened, executable, joined]
    simp [fd, meantPlan, sandboxArguments, toolArguments]
  | false =>
    have mode : (meantPlan launch sandbox (sandboxArguments handler sandbox
        (sandbox.seccompFd seccomp) dynamicArguments)).mode = .descriptorBroker := by
      simp [meantPlan, empty]
    obtain ⟨receives, count, high, cleared⟩ := broker mode
    have fd : sandbox.seccompFd seccomp = none := by
      simp [Bubblewrap.seccompFd, empty]
    have numbers : received.any (fun descriptor => decide (descriptor.rawFd ≤ 2)) = false := by
      rw [List.any_eq_false]
      intro descriptor member
      simpa using high descriptor member
    have child : (meantPlan launch sandbox (sandboxArguments handler sandbox
        (sandbox.seccompFd seccomp) dynamicArguments)).childArguments =
        bubblewrapOptions sandbox.rootFilesystem handler.workingDirectory none
          ++ toolArguments handler sandbox dynamicArguments := by
      rw [fd]
      rfl
    have found : (bubblewrapOptions sandbox.rootFilesystem handler.workingDirectory none
        ++ toolArguments handler sandbox dynamicArguments).findIdx? (· == osStr "--") =
        some (bubblewrapOptions sandbox.rootFilesystem handler.workingDirectory none).length :=
      findIdx?_delimiter (delimiter_not_mem_options root scratch none) _
    rw [mode]
    dsimp only
    rw [runDescriptorBroker, opened, executable, receives, child]
    simp only [Bool.and_self, ↓reduceIte, Option.bind_eq_bind, Option.bind_some, count, ne_eq,
      not_true_eq_false, numbers, Bool.false_eq_true, joined, Bool.not_true, found, cleared,
      List.take_left, List.drop_left, Option.some.injEq, List.append_assoc]
    rfl

end AiOs.ProcessAdapter
