import BatteryInfo.Audio.Lifecycle
import BatteryInfo.Audio.Threads

/-!
# Whole calls as runs of the threads

The functions of `BatteryInfo.Audio.Lifecycle` are what the controlling thread of
`BatteryInfo.Audio.Threads` does between two places outside the service, when nobody else takes
a step. For `Audio_end` this leaves out the join, which waits for another thread, and the
failing destructors, which the threads have only for a mutex that is held.
-/

namespace BatteryInfo.Audio

open Concurrent Sequence

/-- The state of the threads is what the calls so far have made it, and nobody is inside the
service or the speaker. -/
structure Lifecycle.Shows (s : Lifecycle) (sh : Shared) : Prop where
  myState : sh.myState = s.myState
  mutexInit : sh.mutexInit = initialised .msgMutex s.log
  condInit : sh.condInit = initialised .msgCond s.log
  audioMutex : sh.owner .audioMutex = none
  speakerMutex : sh.owner .speakerMutex = none

/-- A run of the controlling thread that returns to the same place. -/
abbrev ControlCall (sh sh' : Shared) : Prop :=
  ThreadRun ControlStep (fun _ _ => True) sh .idle sh' .idle

variable {s : Lifecycle} {sh : Shared}

/-- A call that finds the wrong state leaves everything as it is. -/
theorem Lifecycle.Shows.refused (h : s.Shows sh) :
    s.Shows ((sh.acquire .audioMutex .control).release .audioMutex) where
  myState := h.myState
  mutexInit := h.mutexInit
  condInit := h.condInit
  audioMutex := by simp [Shared.release]
  speakerMutex := by simp [Shared.release, Shared.acquire, h.speakerMutex]

/-- `Audio_init`, whatever the functions it calls return. -/
theorem audioInit_run (o : InitOutcomes) (h : s.Shows sh) :
    ∃ sh', ControlCall sh sh' ∧ (audioInit o s).2.Shows sh' := by
  obtain ⟨hstate, hmutex, hcond, haudio, hspeaker⟩ := id h
  by_cases hended : s.myState = .ended
  · -- the paths share their beginning, and part where a call fails
    have henter {sh' : Shared} (hrun : ThreadRun ControlStep (fun _ _ => True)
        (sh.acquire .audioMutex .control) .initMutex sh' .idle) : ControlCall sh sh' :=
      .head (.init .call) trivial <| .head (.init (.lock haudio)) trivial <|
        .head (.init (.ended (hstate.trans hended))) trivial hrun
    by_cases hm : o.mutexInit = 0
    · by_cases hc : o.condInit = 0
      · by_cases hs : o.speakerInit = .errorNone
        · refine ⟨_, init_run (fun _ _ _ => trivial) haudio hspeaker (hstate.trans hended), ?_⟩
          have hcall : (audioInit o s).2 = ⟨.inited, s.log ++ [⟨.msgMutex, .init, true⟩] ++
              [⟨.msgCond, .init, true⟩]⟩ := by
            simp [audioInit, hended, callInitMessaging, hm, hc, hs]
          rw [hcall]
          constructor <;> simp [Shared.inited, Shared.release, Shared.acquire, -List.append_assoc]
        · refine ⟨_, henter <| .head (.init .mutexInit) trivial <|
            .head (.init .condInit) trivial <| .head (.init .queue) trivial <|
            .head (.init (.speakerLock (by simp [Shared.acquire, hspeaker]))) trivial <|
            .head (.init .speakerError) trivial <| .head (.init .unlock) trivial <| .refl _ _, ?_⟩
          have hcall : (audioInit o s).2 = ⟨s.myState, s.log ++ [⟨.msgMutex, .init, true⟩] ++
              [⟨.msgCond, .init, true⟩]⟩ := by
            simp [audioInit, hended, callInitMessaging, hm, hc, hs]
          rw [hcall]
          constructor <;> simp [Shared.release, Shared.acquire, hstate, -List.append_assoc]
      · refine ⟨_, henter <| .head (.init .mutexInit) trivial <|
          .head (.init .condError) trivial <| .head (.init .unlock) trivial <| .refl _ _, ?_⟩
        have hcall : (audioInit o s).2 = ⟨s.myState, s.log ++ [⟨.msgMutex, .init, true⟩] ++
            [⟨.msgCond, .init, false⟩]⟩ := by
          simp [audioInit, hended, callInitMessaging, hm, hc]
        rw [hcall]
        constructor <;>
          simp [Shared.release, Shared.acquire, hstate, hcond, hspeaker, -List.append_assoc]
    · refine ⟨_, henter <| .head (.init .mutexError) trivial <|
        .head (.init .unlock) trivial <| .refl _ _, ?_⟩
      have hcall : (audioInit o s).2 = ⟨s.myState, s.log ++ [⟨.msgMutex, .init, false⟩]⟩ := by
        simp [audioInit, hended, callInitMessaging, hm]
      rw [hcall]
      constructor <;>
        simp [Shared.release, Shared.acquire, hstate, hmutex, hcond, hspeaker, -List.append_assoc]
  · have hcall : (audioInit o s).2 = s := by simp [audioInit, hended]
    rw [hcall]
    exact ⟨_, .head (.init .call) trivial <| .head (.init (.lock haudio)) trivial <|
      .head (.init (.notEnded fun heq => hended (hstate.symm.trans heq))) trivial <|
      .head (.init .unlock) trivial <| .refl _ _, h.refused⟩

/-- `Audio_start`, whatever `pthread_create` returns. -/
theorem audioStart_run (threadCreate : Int) (h : s.Shows sh) :
    ∃ sh', ControlCall sh sh' ∧ (audioStart threadCreate s).2.Shows sh' := by
  obtain ⟨hstate, hmutex, hcond, haudio, hspeaker⟩ := id h
  by_cases hinited : s.myState = .inited
  · have hshared := hstate.trans hinited
    by_cases hcreate : threadCreate = 0
    · refine ⟨_, start_run (fun _ _ _ _ => trivial) haudio hshared, ?_⟩
      have hcall : (audioStart threadCreate s).2 = ⟨.running, s.log⟩ := by
        simp [audioStart, hinited, hcreate]
      rw [hcall]
      constructor <;>
        simp [Shared.started, Shared.release, Shared.acquire, hmutex, hcond, hspeaker]
    · refine ⟨_, .head (.start .call) trivial <| .head (.start (.lock haudio)) trivial <|
        .head (.start (.inited hshared)) trivial <| .head (.start .createError) trivial <|
        .head (.start .unlock) trivial <| .refl _ _, ?_⟩
      have hcall : (audioStart threadCreate s).2 = s := by simp [audioStart, hinited, hcreate]
      rw [hcall]
      constructor <;> simp [Shared.release, Shared.acquire, hstate, hmutex, hcond, hspeaker]
  · have hcall : (audioStart threadCreate s).2 = s := by simp [audioStart, hinited]
    rw [hcall]
    refine ⟨_, .head (.start .call) trivial <| .head (.start (.lock haudio)) trivial <|
      .head (.start (.notInited fun heq => hinited (hstate.symm.trans heq))) trivial <|
      .head (.start .unlock) trivial <| .refl _ _, ?_⟩
    constructor <;> simp [Shared.release, Shared.acquire, hstate, hmutex, hcond, hspeaker]

/-- The teardown of `Audio_end` with every release successful. -/
theorem teardown_run (sh : Shared) (hspeaker : sh.owner .speakerMutex = none) :
    ThreadRun ControlStep (fun _ _ => True) sh .endSpeakerLock
      ({ (sh.acquire .speakerMutex .control).release .speakerMutex with
        mutexInit := false
        condInit := false
        hist := { sh.hist with serving := false }
        queue := sh.queue.clear
        myState := .ended }.release .audioMutex) .idle :=
  .head (.end (.speakerLock hspeaker)) trivial <| .head (.end .speakerDeInit) trivial <|
    .head (.end .destroyMutex) trivial <| .head (.end .destroyCond) trivial <|
    .head (.end .clear) trivial <| .head (.end .storeEnded) trivial <|
    .head (.end .unlock) trivial <| .refl _ _

/-- `Audio_end` of a service that has ended, or without a `TaskLoop` to wait for and with every
release successful. -/
theorem audioEnd_run (o : EndOutcomes) (h : s.Shows sh) (hrunning : s.myState ≠ .running)
    (herror : s.myState ≠ .ended → o.error = .errorNone) :
    ∃ sh', ControlCall sh sh' ∧ (audioEnd o s).2.Shows sh' := by
  obtain ⟨hstate, hmutex, hcond, haudio, hspeaker⟩ := id h
  cases hcase : s.myState with
  | ended =>
      have hcall : (audioEnd o s).2 = s := by simp [audioEnd, hcase]
      rw [hcall]
      refine ⟨_, .head (.end .call) trivial <| .head (.end (.lock haudio)) trivial <|
        .head (.end (.ended (hstate.trans hcase))) trivial <|
        .head (.end .unlock) trivial <| .refl _ _, ?_⟩
      constructor <;> simp [Shared.release, Shared.acquire, hstate, hmutex, hcond, hspeaker]
  | running => exact absurd hcase hrunning
  | inited =>
      have hnone := herror (by simp [hcase])
      obtain ⟨_, hm, hc⟩ := o.error_eq_none.1 hnone
      have hcall : (audioEnd o s).2 = ⟨.ended, s.log ++ [⟨.msgMutex, .destroy, true⟩] ++
          [⟨.msgCond, .destroy, true⟩]⟩ := by
        simp [audioEnd, hcase, hnone, hm, hc]
      rw [hcall]
      refine ⟨_, .head (.end .call) trivial <| .head (.end (.lock haudio)) trivial <|
        .head (.end (.notEnded (by simp [Shared.acquire, hstate, hcase]))) trivial <|
        .head (.end (.notRunning (by simp [Shared.acquire, hstate, hcase]))) trivial <|
        .head (.end (.notEnding (by simp [Shared.acquire, hstate, hcase]))) trivial <|
        .head (.end (.inited (hstate.trans hcase))) trivial <|
        teardown_run _ (by simp [Shared.acquire, hspeaker]), ?_⟩
      constructor <;> simp [Shared.release, Shared.acquire, -List.append_assoc]
  | ending =>
      have hnone := herror (by simp [hcase])
      obtain ⟨_, hm, hc⟩ := o.error_eq_none.1 hnone
      have hcall : (audioEnd o s).2 = ⟨.ended, s.log ++ [⟨.msgMutex, .destroy, true⟩] ++
          [⟨.msgCond, .destroy, true⟩]⟩ := by
        simp [audioEnd, hcase, hnone, hm, hc]
      rw [hcall]
      refine ⟨_, .head (.end .call) trivial <| .head (.end (.lock haudio)) trivial <|
        .head (.end (.notEnded (by simp [Shared.acquire, hstate, hcase]))) trivial <|
        .head (.end (.notRunning (by simp [Shared.acquire, hstate, hcase]))) trivial <|
        .head (.end (.ending (hstate.trans hcase))) trivial <|
        teardown_run _ (by simp [Shared.acquire, hspeaker]), ?_⟩
      constructor <;> simp [Shared.release, Shared.acquire, -List.append_assoc]

end BatteryInfo.Audio
