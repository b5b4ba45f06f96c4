import AiOs.Lib.Bpf

/-! The seccomp policy of `aios-adapter-process`: a small compiler from a list of blocked
system calls to the bytes of a classic BPF program, and what the program answers. -/
namespace AiOs.ProcessAdapter

open Bytes Bpf

def auditArchX8664 : UInt32 := 0xc000003e
def x32SyscallBit : UInt32 := 0x40000000
def maxReviewedSyscall : UInt32 := 470
def seccompDataNrOffset : UInt32 := 0
def seccompDataArchOffset : UInt32 := 4
def seccompRetKillProcess : UInt32 := 0x80000000
def seccompRetAllow : UInt32 := 0x7fff0000

def blockedSyscalls : List (String × UInt32) :=
  [("ptrace", 101), ("syslog", 103), ("personality", 135), ("vhangup", 153), ("pivot_root", 155),
   ("acct", 163), ("settimeofday", 164), ("mount", 165), ("umount2", 166), ("swapon", 167),
   ("swapoff", 168), ("reboot", 169), ("iopl", 172), ("ioperm", 173), ("init_module", 175),
   ("delete_module", 176), ("quotactl", 179), ("lookup_dcookie", 212), ("clock_settime", 227),
   ("kexec_load", 246), ("add_key", 248), ("request_key", 249), ("keyctl", 250), ("unshare", 272),
   ("perf_event_open", 298), ("fanotify_init", 300), ("name_to_handle_at", 303),
   ("open_by_handle_at", 304), ("clock_adjtime", 305), ("setns", 308), ("process_vm_readv", 310),
   ("process_vm_writev", 311), ("kcmp", 312), ("finit_module", 313), ("kexec_file_load", 320),
   ("bpf", 321), ("userfaultfd", 323), ("io_uring_setup", 425), ("io_uring_enter", 426),
   ("io_uring_register", 427), ("open_tree", 428), ("move_mount", 429), ("fsopen", 430),
   ("fsconfig", 431), ("fsmount", 432), ("fspick", 433), ("pidfd_getfd", 438),
   ("process_madvise", 440), ("mount_setattr", 442), ("quotactl_fd", 443), ("memfd_secret", 447),
   ("process_mrelease", 448), ("statmount", 457), ("listmount", 458), ("lsm_set_self_attr", 460),
   ("lsm_list_modules", 461), ("open_tree_attr", 467), ("file_getattr", 468),
   ("file_setattr", 469), ("listns", 470)]

abbrev FilterInstruction := Bpf.Instruction

namespace FilterInstruction

def statement (code : UInt16) (value : UInt32) : FilterInstruction := ⟨code, 0, 0, value⟩

def jump (code : UInt16) (value : UInt32) (jumpTrue jumpFalse : UInt8) : FilterInstruction :=
  ⟨code, jumpTrue, jumpFalse, value⟩

/-- `to_ne_bytes` follows the byte order of the target. -/
def appendBytes (endian : Endian) (output : List UInt8) (instruction : FilterInstruction) :
    List UInt8 :=
  output ++ endian.toBytes 2 instruction.code.toNat
    ++ [instruction.jumpTrue] ++ [instruction.jumpFalse]
    ++ endian.toBytes 4 instruction.value.toNat

end FilterInstruction

open FilterInstruction

/-- The checks in front of the list: the architecture, the other ABI, unknown numbers. -/
def filterHeader : List FilterInstruction :=
  [statement ldWAbs seccompDataArchOffset,
    jump jmpJeqK auditArchX8664 1 0,
    statement retK seccompRetKillProcess,
    statement ldWAbs seccompDataNrOffset,
    jump jmpJgeK x32SyscallBit 0 1,
    statement retK seccompRetKillProcess,
    jump jmpJgtK maxReviewedSyscall 0 1,
    statement retK seccompRetKillProcess]

/-- The body of the loop over the blocked calls. -/
def blockInstructions (entry : String × UInt32) : List FilterInstruction :=
  [jump jmpJeqK entry.2 0 1, statement retK seccompRetKillProcess]

def filterInstructions (blocked : List (String × UInt32)) : List FilterInstruction :=
  filterHeader ++ blocked.flatMap blockInstructions ++ [statement retK seccompRetAllow]

/-- `default_filter_bytes` with any list in the place of the table. -/
def filterBytes (endian : Endian) (blocked : List (String × UInt32)) : List UInt8 :=
  (filterInstructions blocked).foldl (appendBytes endian) []

def defaultFilterBytes (endian : Endian) : List UInt8 := filterBytes endian blockedSyscalls

/-- The two words of `struct seccomp_data` that the program loads. -/
def seccompData (arch nr : UInt32) (offset : UInt32) : Option UInt32 :=
  if offset = seccompDataNrOffset then some nr
  else if offset = seccompDataArchOffset then some arch
  else none

theorem appendBytes_eq (endian : Endian) (output : List UInt8) (instruction : FilterInstruction) :
    appendBytes endian output instruction = output ++ instruction.encode endian := by
  simp only [appendBytes, Instruction.encode, List.append_assoc, List.cons_append, List.nil_append]

theorem filterBytes_eq (endian : Endian) (blocked : List (String × UInt32)) :
    filterBytes endian blocked =
      (filterInstructions blocked).flatMap (Instruction.encode endian) := by
  have loop : ∀ (code : List FilterInstruction) (output : List UInt8),
      code.foldl (appendBytes endian) output =
        output ++ code.flatMap (Instruction.encode endian) := by
    intro code
    induction code with
    | nil => exact fun output => (List.append_nil output).symm
    | cons instruction rest ih =>
      intro output
      rw [List.foldl_cons, ih, appendBytes_eq, List.flatMap_cons, List.append_assoc]
  exact loop _ []

theorem length_filterInstructions (blocked : List (String × UInt32)) :
    (filterInstructions blocked).length = 9 + 2 * blocked.length := by
  have body : (blocked.flatMap blockInstructions).length = 2 * blocked.length := by
    induction blocked with
    | nil => rfl
    | cons entry rest ih =>
      rw [List.flatMap_cons, List.length_append, ih, List.length_cons]
      change 2 + _ = _
      omega
  rw [filterInstructions, List.length_append, List.length_append, body]
  change 8 + _ + 1 = _
  omega

/-- The list of checks, wherever in a program it stands. -/
theorem run_blocked (data : UInt32 → Option UInt32) (nr : UInt32)
    (blocked : List (String × UInt32)) (before : List FilterInstruction) (spare : Nat) :
    run (fun index => (before ++ blocked.flatMap blockInstructions ++
        [statement retK seccompRetAllow])[index]?) data
      (2 * blocked.length + 1 + spare) ⟨nr, before.length⟩ =
    .ok (if nr ∈ blocked.map Prod.snd then seccompRetKillProcess else seccompRetAllow) := by
  induction blocked generalizing before spare with
  | nil =>
    have fuel : 2 * ([] : List (String × UInt32)).length + 1 + spare = spare + 1 := by
      rw [List.length_nil]
      omega
    rw [fuel]
    apply run_ret
    rw [List.flatMap_nil, List.append_nil, List.getElem?_append_right (Nat.le_refl _),
      Nat.sub_self]
    rfl
  | cons entry rest ih =>
    have fuel : 2 * (entry :: rest).length + 1 + spare =
        2 * rest.length + 1 + (spare + 1) + 1 := by
      rw [List.length_cons]
      omega
    have shape : before ++ (entry :: rest).flatMap blockInstructions ++
        [statement retK seccompRetAllow] = (before ++ blockInstructions entry) ++
          rest.flatMap blockInstructions ++ [statement retK seccompRetAllow] := by
      rw [List.flatMap_cons]
      simp only [List.append_assoc]
    have check : ((before ++ blockInstructions entry) ++ rest.flatMap blockInstructions ++
        [statement retK seccompRetAllow])[before.length]? = some (jump jmpJeqK entry.2 0 1) := by
      simp [blockInstructions]
    have kill : ((before ++ blockInstructions entry) ++ rest.flatMap blockInstructions ++
        [statement retK seccompRetAllow])[before.length + 1]? =
          some (statement retK seccompRetKillProcess) := by
      simp [blockInstructions]
    rw [fuel, shape, run_jeq check]
    dsimp only
    by_cases same : nr = entry.2
    · have listed : nr ∈ (entry :: rest).map Prod.snd := by
        rw [same]
        exact List.mem_cons_self
      rw [if_pos same, if_pos listed]
      exact run_ret kill
    · have next : before.length + 1 + (1 : UInt8).toNat =
          (before ++ blockInstructions entry).length := by
        rw [List.length_append]
        rfl
      have listed : nr ∈ (entry :: rest).map Prod.snd ↔ nr ∈ rest.map Prod.snd := by
        rw [List.map_cons, List.mem_cons, or_iff_right same]
      rw [if_neg same, next, ih, if_congr listed rfl rfl]

/-- Only a known call of the native ABI gets as far as the list. -/
theorem run_filterInstructions (arch nr : UInt32) (blocked : List (String × UInt32)) :
    run (fun index => (filterInstructions blocked)[index]?) (seccompData arch nr)
        (9 + 2 * blocked.length) ⟨0, 0⟩ =
      .ok (if arch = auditArchX8664 ∧ nr ≤ maxReviewedSyscall ∧ nr ∉ blocked.map Prod.snd
        then seccompRetAllow else seccompRetKillProcess) := by
  have fuel : 9 + 2 * blocked.length = 2 * blocked.length + 1 + 3 + 1 + 1 + 1 + 1 + 1 := by omega
  have header : ∀ (index : Nat) instruction, filterHeader[index]? = some instruction →
      (filterInstructions blocked)[index]? = some instruction := by
    intro index instruction found
    obtain ⟨inside, _⟩ := List.getElem?_eq_some_iff.mp found
    rw [filterInstructions, List.append_assoc, List.getElem?_append_left inside, found]
  have archRead : seccompData arch nr seccompDataArchOffset = some arch := by
    rw [seccompData, if_neg (by decide), if_pos rfl]
  have nrRead : seccompData arch nr seccompDataNrOffset = some nr := if_pos rfl
  rw [fuel, run_load (header 0 _ rfl) archRead, run_jeq (header 1 _ rfl)]
  dsimp only
  by_cases native : arch = auditArchX8664
  · rw [if_pos native, run_load (header 3 _ rfl) nrRead, run_jge (header 4 _ rfl)]
    dsimp only
    by_cases other : nr ≥ x32SyscallBit
    · have killed : ¬ (arch = auditArchX8664 ∧ nr ≤ maxReviewedSyscall ∧
          nr ∉ blocked.map Prod.snd) := by
        rintro ⟨_, small, _⟩
        have reviewed : maxReviewedSyscall < x32SyscallBit := by decide
        exact UInt32.not_le.mpr (UInt32.lt_of_le_of_lt small reviewed) other
      rw [if_pos other, if_neg killed]
      exact run_ret (header 5 _ rfl)
    · rw [if_neg other, run_jgt (header 6 _ rfl)]
      dsimp only
      by_cases unknown : nr > maxReviewedSyscall
      · have killed : ¬ (arch = auditArchX8664 ∧ nr ≤ maxReviewedSyscall ∧
            nr ∉ blocked.map Prod.snd) := fun all => UInt32.not_le.mpr unknown all.2.1
        rw [if_pos unknown, if_neg killed]
        exact run_ret (header 7 _ rfl)
      · have listed : nr ∈ blocked.map Prod.snd ↔ ¬ (arch = auditArchX8664 ∧
            nr ≤ maxReviewedSyscall ∧ nr ∉ blocked.map Prod.snd) := by
          constructor
          · exact fun member all => all.2.2 member
          · intro killed
            by_contra absent
            exact killed ⟨native, UInt32.not_lt.mp unknown, absent⟩
        have checks := run_blocked (seccompData arch nr) nr blocked filterHeader 3
        rw [if_neg unknown]
        change run _ _ _ ⟨nr, filterHeader.length⟩ = _
        rw [filterInstructions, checks, if_congr listed rfl rfl, ite_not]
  · have killed : ¬ (arch = auditArchX8664 ∧ nr ≤ maxReviewedSyscall ∧
        nr ∉ blocked.map Prod.snd) := fun all => native all.1
    rw [if_neg native, if_neg killed]
    exact run_ret (header 2 _ rfl)

/-- The generated program answers every pair of words: it ends inside the program, and it
allows exactly the reviewed calls of the native ABI that are not blocked. -/
theorem filter_meaning (endian : Endian) (blocked : List (String × UInt32)) (arch nr : UInt32) :
    evaluate endian (filterBytes endian blocked) (seccompData arch nr) =
      .ok (if arch = auditArchX8664 ∧ nr ≤ maxReviewedSyscall ∧ nr ∉ blocked.map Prod.snd
        then seccompRetAllow else seccompRetKillProcess) := by
  rw [filterBytes_eq, evaluate_flatMap_encode, length_filterInstructions]
  exact run_filterInstructions arch nr blocked

example : evaluate .little (filterBytes .little [("ptrace", 101)])
    (seccompData auditArchX8664 101) = .ok seccompRetKillProcess := by decide +kernel

end AiOs.ProcessAdapter
