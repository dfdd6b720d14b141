import Ibctl.Handlers.ApiConfig
import Ibctl.Lib.Trace

/-! The pages of the configuration dialog. What is written there belongs to the page that was
selected last, as far as the agent answered that it was. -/
namespace Ibctl.Handlers
open Tasks Task Machine

inductive Page where
  | apiSettings
  | precautions
  | lockAndExit
deriving DecidableEq, Repr

def Page.node : Page → String
  | .apiSettings => "Settings"
  | .precautions => "Precautions"
  | .lockAndExit => "Lock and Exit"

variable (settings : ApiConfigSettings)

/-- Something on the page is to be set. -/
def Page.Requested : Page → Prop
  | .apiSettings => settings.socketPort ≠ none ∨ settings.masterClientId ≠ none ∨
      settings.readOnlyApi ≠ none ∨ settings.instrumentTimezone ≠ none
  | .precautions => settings.bypassOrderPrecautions ≠ none
  | .lockAndExit => settings.autoRestartTime ≠ none ∨ settings.autoLogoffTime ≠ none

/-- What is written on a page of this window. -/
inductive Belongs (window : WindowId) : Page → UiAction → Prop
  | socketPort {port : Nat} (set : settings.socketPort = some port) :
      Belongs window .apiSettings (.typedByLabel window "Socket port" (toString port))
  | socketPortField {port : Nat} (set : settings.socketPort = some port) :
      Belongs window .apiSettings (.typed window 0 (toString port))
  | masterClientId {id : String} (set : settings.masterClientId = some id) :
      Belongs window .apiSettings (.typed window 1 id)
  | readOnlyApi {readOnly : Bool} (set : settings.readOnlyApi = some readOnly) (state : Bool) :
      Belongs window .apiSettings (.setCheckbox window "Read-Only API" state)
  | timezone {timezone : String} (set : settings.instrumentTimezone = some timezone) :
      Belongs window .apiSettings (.setCombobox window
        "Send instrument-specific attributes for dual-mode API client in" timezone)
  | precaution {bypass : Bool} (set : settings.bypassOrderPrecautions = some bypass)
      {label : String} (known : label ∈ precautionLabels) :
      Belongs window .precautions (.setCheckbox window label bypass)
  | time {time : String} (set : settings.autoRestartTime = some time ∨ settings.autoLogoffTime = some time) :
      Belongs window .lockAndExit (.typed window 0 (parseTimeWithAmpm time).1)

def IsWrite : UiAction → Prop
  | .typed .. | .typedByLabel .. | .setCheckbox .. | .setCombobox .. => True
  | _ => False

section Property

variable (answers : UiAnswers)

/-- The call selects this node. -/
def Selects (window : WindowId) (node : String) (n : Nat) : Prop :=
  (applyApiConfig settings).WaitsAfter answers () (.selectedTreeNode window node) n

/-- Every write is one of the page whose selection, the last before it, was answered true. -/
def WritesOnSelected : Prop :=
  ∀ n action, (applyApiConfig settings).WaitsAfter answers () action n → IsWrite action →
    ∃ page window, Belongs settings window page action ∧ ∃ m < n,
      Selects settings answers window page.node m ∧ answers.selectTreeNode m = .ok true ∧
        ∀ k, m < k → k < n → ∀ other node, ¬ Selects settings answers other node k

/-- Where the configuration succeeds every page that is to be set was selected. -/
def SucceedsOnSelected : Prop :=
  ∀ report, ((applyApiConfig settings).start ⟨answers,none⟩ ()).result = .ok report →
    ∀ page : Page, page.Requested settings →
      ∃ window m, Selects settings answers window page.node m ∧ answers.selectTreeNode m = .ok true

/-- The replies to its selection with which a page is reached, or the configuration ends there: only
an error for the first page ends it. -/
def Page.Reached : Page → Except AgentError Bool → Prop
  | .apiSettings,reply => reply ≠ .ok false
  | _,reply => reply = .ok true

/-- So are the selections answered of the pages that are to be set. -/
def PagesReached : Prop :=
  ∀ page : Page, page.Requested settings → ∀ window n, Selects settings answers window page.node n →
    page.Reached (answers.selectTreeNode n)

end Property

section Idle

/-- Neither a selection nor a write. -/
def IsIdle : UiAction → Prop
  | .clicked .. | .clickedMenu .. | .clickedAt .. => True
  | _ => False

variable {answers : UiAnswers} {K : UiAction → Prop}

theorem act_calls {action : UiAction} (kind : K action) (answer : UiAnswers → Nat → Except AgentError Bool) :
    Calls answers K (act action answer) :=
  calls_emit_await kind answer

theorem listed_calls : Calls answers K listed :=
  calls_bind (calls_await _) fun _ => calls_pure _

theorem clickAll_calls (window : WindowId) (labels : List String) :
    Calls answers IsIdle (clickAll window labels) := by
  induction labels with
  | nil => exact calls_pure _
  | cons label rest ih => exact calls_bind (act_calls trivial _) fun _ => ih

theorem sweep_calls (labels : List String) (windows : List WindowInfo) :
    Calls answers IsIdle (sweep labels windows) := by
  induction windows with
  | nil => exact calls_pure _
  | cons window rest ih => exact calls_bind (clickAll_calls window.id labels) fun _ => ih

theorem dismissPopups_calls (configWin : WindowId) : Calls answers IsIdle (dismissPopups configWin) :=
  calls_bind listed_calls fun _ => sweep_calls _ _

theorem pollConfig_calls (attempts : Nat) : Calls answers IsIdle (pollConfig attempts) := by
  induction attempts with
  | zero => exact calls_pure _
  | succ attempts ih =>
    refine calls_bind calls_sleep fun _ => calls_bind listed_calls fun windows => ?_
    split
    · exact calls_pure _
    · exact ih

theorem openMenu_calls (win : WindowInfo) : Calls answers IsIdle (openMenu win) := by
  refine calls_bind (act_calls trivial _) fun clicked => ?_
  split
  · exact calls_pure _
  · exact calls_bind (act_calls trivial _) fun _ => calls_sleep

theorem openConfig_calls (win : WindowInfo) (attempts : Nat) :
    Calls answers IsIdle (openConfig win attempts) := by
  induction attempts with
  | zero => exact calls_pure _
  | succ attempts ih =>
    refine calls_bind (openMenu_calls win) fun _ => calls_bind (pollConfig_calls 20) fun found => ?_
    split
    · exact calls_pure _
    · exact calls_bind (act_calls trivial _) fun _ => calls_bind calls_sleep fun _ => ih

theorem dismissPostConfig_calls (sweeps : Nat) : Calls answers IsIdle (dismissPostConfig sweeps) := by
  induction sweeps with
  | zero => exact calls_pure _
  | succ sweeps ih =>
    refine calls_bind calls_sleep fun _ => calls_bind listed_calls fun post => ?_
    split
    · exact calls_pure _
    · exact calls_bind (sweep_calls _ _) fun _ => ih

theorem clickMain_calls : Calls answers IsIdle clickMain := by
  refine calls_bind listed_calls fun final => ?_
  split
  · exact calls_pure _
  · exact calls_bind (act_calls trivial _) fun _ => calls_pure _

theorem saveAndClose_calls (configWin : WindowId) : Calls answers IsIdle (saveAndClose configWin) := by
  refine calls_bind (act_calls trivial _) fun _ => calls_bind calls_sleep fun _ => ?_
  refine calls_bind (act_calls trivial _) fun _ => calls_bind calls_sleep fun _ => ?_
  exact calls_bind (dismissPostConfig_calls 3) fun _ => clickMain_calls

end Idle

section Writing

variable {settings} {answers : UiAnswers} {window : WindowId}

/-- What is done while a page is shown. -/
def OnPage (settings : ApiConfigSettings) (window : WindowId) (page : Page) (action : UiAction) : Prop :=
  IsIdle action ∨ Belongs settings window page action

theorem Belongs.requested {page : Page} {action : UiAction} (belongs : Belongs settings window page action) :
    page.Requested settings := by
  cases belongs with
  | socketPort set => exact .inl (by simp [set])
  | socketPortField set => exact .inl (by simp [set])
  | masterClientId set => exact .inr (.inl (by simp [set]))
  | readOnlyApi set => exact .inr (.inr (.inl (by simp [set])))
  | timezone set => exact .inr (.inr (.inr (by simp [set])))
  | precaution set => simp [Page.Requested,set]
  | time set =>
    rcases set with set | set
    · exact .inl (by simp [set])
    · exact .inr (by simp [set])

theorem popups_calls {page : Page} :
    Calls answers (OnPage settings window page) (dismissPopups window) :=
  (dismissPopups_calls window).mono fun _ idle => .inl idle

theorem applySocketPort_calls :
    Calls answers (OnPage settings window .apiSettings) (applySocketPort window settings.socketPort) := by
  cases set : settings.socketPort with
  | none => exact calls_pure _
  | some port =>
    refine calls_bind (act_calls (.inr (.socketPort set)) _) fun typed => ?_
    split
    · exact calls_pure _
    · exact calls_bind (act_calls (.inr (.socketPortField set)) _) fun _ => calls_pure _

theorem applyMasterClientId_calls :
    Calls answers (OnPage settings window .apiSettings)
      (applyMasterClientId window settings.masterClientId) := by
  cases set : settings.masterClientId with
  | none => exact calls_pure _
  | some id => exact calls_bind (act_calls (.inr (.masterClientId set)) _) fun _ => calls_pure _

theorem applyReadOnlyApi_calls :
    Calls answers (OnPage settings window .apiSettings)
      (applyReadOnlyApi window settings.readOnlyApi) := by
  cases set : settings.readOnlyApi with
  | none => exact calls_pure _
  | some readOnly =>
    refine calls_bind (act_calls (.inr (.readOnlyApi set _)) _) fun ticked => ?_
    split
    · exact calls_pure _
    · exact calls_bind (act_calls (.inr (.readOnlyApi set _)) _) fun _ => calls_pure _

theorem applyTimezone_calls :
    Calls answers (OnPage settings window .apiSettings)
      (applyTimezone window settings.instrumentTimezone) := by
  cases set : settings.instrumentTimezone with
  | none => exact calls_pure _
  | some timezone => exact calls_bind (act_calls (.inr (.timezone set)) _) fun _ => calls_pure _

theorem applyApiSettings_calls :
    Calls answers (OnPage settings window .apiSettings) (applyApiSettings settings window) := by
  refine calls_bind applySocketPort_calls fun _ => calls_bind applyMasterClientId_calls fun _ => ?_
  refine calls_bind applyReadOnlyApi_calls fun _ => ?_
  exact calls_bind applyTimezone_calls fun _ => calls_pure _

theorem applyPrecautionLabels_calls {bypass : Bool} (set : settings.bypassOrderPrecautions = some bypass)
    {labels : List String} (known : ∀ label ∈ labels, label ∈ precautionLabels) :
    Calls answers (OnPage settings window .precautions) (applyPrecautionLabels window bypass labels) := by
  induction labels with
  | nil => exact calls_pure _
  | cons label rest ih =>
    refine calls_bind (act_calls (.inr (.precaution set (known label (by simp)))) _) fun _ => ?_
    exact calls_bind (ih fun other among => known other (by simp [among])) fun _ => calls_pure _

theorem typeTime_calls {time : String}
    (set : settings.autoRestartTime = some time ∨ settings.autoLogoffTime = some time) (kind : String) :
    Calls answers (OnPage settings window .lockAndExit) (typeTime window time kind) := by
  refine calls_bind (act_calls (.inr (.time set)) _) fun _ => ?_
  refine calls_bind (act_calls (.inl trivial) _) fun _ => ?_
  exact calls_bind (act_calls (.inl trivial) _) fun _ => calls_pure _

end Writing

section Visits

variable {settings} {answers : UiAnswers} {window : WindowId}

/-- The calls for a page: none where nothing is to be set, and else its selection and what is done
there. -/
inductive Visits (settings : ApiConfigSettings) (window : WindowId) (page : Page) :
    List (Option UiAction) → Prop
  | skipped (unrequested : ¬ page.Requested settings) : Visits settings window page []
  | visited {calls : List (Option UiAction)}
      (there : ∀ action, some action ∈ calls → OnPage settings window page action) :
      Visits settings window page (some (.selectedTreeNode window page.node) :: calls)

theorem traced_act (action : UiAction) (answer : UiAnswers → Nat → Except AgentError Bool) (n : Nat) :
    Traced answers (act action answer) n (.ok (answer answers n)) [some action] :=
  traced_emit_await action answer

/-- A page is selected, and what follows is done there. -/
theorem visits_page {α : Type} {page : Page} {rest : Except AgentError Bool → Ui α}
    (there : ∀ selected, Calls answers (OnPage settings window page) (rest selected)) (n : Nat) :
    ∃ a calls, Traced answers (act (.selectedTreeNode window page.node) UiAnswers.selectTreeNode >>= rest)
      n (.ok a) calls ∧ Visits settings window page calls := by
  obtain ⟨a,calls,traced,kind⟩ := there (answers.selectTreeNode n) (n + 1)
  exact ⟨a,_,(traced_act _ _ n).bind traced,.visited kind⟩

theorem applyPrecautions_visits (n : Nat) :
    ∃ missing calls, Traced answers (applyPrecautions settings window) n (.ok missing) calls ∧
      Visits settings window .precautions calls := by
  unfold applyPrecautions
  split
  next unset => exact ⟨0,[],traced_pure 0,.skipped (by simp [Page.Requested,unset])⟩
  next bypass set =>
    refine @visits_page settings answers window _ .precautions _ (fun selected => ?_) n
    refine calls_bind calls_sleep fun _ => ?_
    refine calls_bind (applyPrecautionLabels_calls set fun _ known => known) fun missing => ?_
    exact calls_bind calls_sleep fun _ => calls_bind popups_calls fun _ => calls_pure _

theorem lockAndExit_calls :
    Calls answers (OnPage settings window .lockAndExit) (do
      sleep
      match settings.autoRestartTime,settings.autoLogoffTime with
      | some restartTime,_ =>
        typeTime window restartTime "Auto restart"
        sleep
        dismissPopups window
      | none,some logoffTime => typeTime window logoffTime "Auto logoff"
      | none,none => return : Ui Unit) := by
  refine calls_bind calls_sleep fun _ => ?_
  cases restart : settings.autoRestartTime with
  | some restartTime =>
    refine calls_bind (typeTime_calls (.inl restart) _) fun _ => ?_
    exact calls_bind calls_sleep fun _ => popups_calls
  | none =>
    cases logoff : settings.autoLogoffTime with
    | some logoffTime => exact typeTime_calls (.inr logoff) _
    | none => exact calls_pure _

theorem applyLockAndExit_visits (n : Nat) :
    ∃ calls, Traced answers (applyLockAndExit settings window) n (.ok ()) calls ∧
      Visits settings window .lockAndExit calls := by
  unfold applyLockAndExit
  split
  next unset => exact ⟨[],traced_pure (),.skipped (by simp [Page.Requested,unset])⟩
  next set =>
    obtain ⟨a,calls,traced,visits⟩ := @visits_page settings answers window _ .lockAndExit _
      (fun selected => lockAndExit_calls) n
    exact ⟨calls,traced,visits⟩

end Visits

section Course

variable {settings} {answers : UiAnswers} {window : WindowId}

/-- How the configuration goes, by its calls: it has nothing to do, it fails before anything is
written, or it visits the pages one after the other. -/
inductive Course (settings : ApiConfigSettings) (answers : UiAnswers) :
    Except String ApiConfigReport → List (Option UiAction) → Prop
  | nothing (report : ApiConfigReport) (unset : settings.hasSettings = false) :
      Course settings answers (.ok report) []
  | stopped (e : String) {calls : List (Option UiAction)}
      (before : ∀ n action, calls[n]? = some (some action) → IsIdle action ∨
        ∃ window node, action = .selectedTreeNode window node ∧
          (node = "API" ∨ node = "Settings" ∧ ∃ e, answers.selectTreeNode n = .error e)) :
      Course settings answers (.error e) calls
  | done (report : ApiConfigReport) (window : WindowId)
      {front api precautions lockAndExit last : List (Option UiAction)} {selected : Bool}
      (before : ∀ action, some action ∈ front → IsIdle action ∨ action = .selectedTreeNode window "API")
      (answered : answers.selectTreeNode front.length = .ok selected)
      (there : ∀ action, some action ∈ api → OnPage settings window .apiSettings action)
      (precaution : Visits settings window .precautions precautions)
      (lock : Visits settings window .lockAndExit lockAndExit)
      (after : ∀ action, some action ∈ last → IsIdle action) :
      Course settings answers (.ok report)
        (front ++ (some (.selectedTreeNode window "Settings") :: api) ++ precautions ++ lockAndExit ++
          last)

theorem selectNode_ok {n : Nat} {selected : Bool} {node : String} {failed : AgentError → String}
    (answered : answers.selectTreeNode n = .ok selected) :
    Traced answers (selectNode window node failed) n (.ok ())
      [some (.selectedTreeNode window node),none] := by
  have selects := @traced_act answers (.selectedTreeNode window node) UiAnswers.selectTreeNode n
  rw [answered] at selects
  exact selects.bind (Traced.bind (traced_pure selected) (traced_await _))

theorem selectNode_error {n : Nat} {e : AgentError} {node : String} {failed : AgentError → String}
    (answered : answers.selectTreeNode n = .error e) :
    Traced answers (selectNode window node failed) n (.error (failed e))
      [some (.selectedTreeNode window node)] := by
  have selects := @traced_act answers (.selectedTreeNode window node) UiAnswers.selectTreeNode n
  rw [answered] at selects
  exact selects.bind (Traced.bind_error (traced_fail (failed e)))

/-- The selections that end the configuration, after calls that do nothing of the kind. -/
theorem Course.stops {before tail : List (Option UiAction)} (e : String)
    (idle : ∀ action, some action ∈ before → IsIdle action)
    (selections : ∀ j action, tail[j]? = some (some action) →
      ∃ window node, action = .selectedTreeNode window node ∧ (node = "API" ∨
        node = "Settings" ∧ ∃ e, answers.selectTreeNode (before.length + j) = .error e)) :
    Course settings answers (.error e) (before ++ tail) := by
  refine .stopped e fun n action carried => ?_
  by_cases inside : n < before.length
  · rw [List.getElem?_append_left inside] at carried
    exact .inl (idle action (List.mem_of_getElem? carried))
  · obtain ⟨j,rfl⟩ := Nat.exists_eq_add_of_le (Nat.le_of_not_lt inside)
    rw [List.getElem?_append_right (by omega),Nat.add_sub_cancel_left] at carried
    exact .inr (selections j action carried)

theorem configure_course {before : List (Option UiAction)}
    (idle : ∀ action, some action ∈ before → IsIdle action) :
    ∃ result calls, Traced answers (configure settings window) before.length result calls ∧
      Course settings answers result (before ++ calls) := by
  cases api : answers.selectTreeNode before.length with
  | error e =>
    refine ⟨_,_,(selectNode_error api).bind_error,.stops _ idle ?_⟩
    rintro (_ | j) action carried
    · obtain rfl : UiAction.selectedTreeNode window "API" = action := by simpa using carried
      exact ⟨window,"API",rfl,.inl rfl⟩
    · simp at carried
  | ok first =>
    cases page : answers.selectTreeNode (before.length + 2) with
    | error e =>
      refine ⟨_,_,(selectNode_ok api).bind (selectNode_error page).bind_error,.stops _ idle ?_⟩
      rintro (_ | _ | _ | j) action carried
      · obtain rfl : UiAction.selectedTreeNode window "API" = action := by simpa using carried
        exact ⟨window,"API",rfl,.inl rfl⟩
      · simp at carried
      · obtain rfl : UiAction.selectedTreeNode window "Settings" = action := by simpa using carried
        exact ⟨window,"Settings",rfl,.inr ⟨rfl,e,page⟩⟩
      · simp at carried
    | ok second =>
      obtain ⟨readOnly,settingCalls,setting,there⟩ :=
        @applyApiSettings_calls settings answers window (before.length + 2 + 2)
      obtain ⟨missing,precautionCalls,precaution,visitsPrecautions⟩ :=
        @applyPrecautions_visits settings answers window
          (before.length + 2 + 2 + settingCalls.length)
      obtain ⟨lockCalls,lock,visitsLock⟩ :=
        @applyLockAndExit_visits settings answers window
          (before.length + 2 + 2 + settingCalls.length + precautionCalls.length)
      obtain ⟨⟨⟩,lastCalls,last,after⟩ := @saveAndClose_calls answers window
        (before.length + 2 + 2 + settingCalls.length + precautionCalls.length + lockCalls.length)
      have traced : Traced answers (configure settings window) before.length (.ok ⟨missing,readOnly⟩)
          ([some (.selectedTreeNode window "API"),none] ++ ([some (.selectedTreeNode window "Settings"),
            none] ++ (settingCalls ++ (precautionCalls ++ (lockCalls ++ (lastCalls ++ [])))))) := by
        refine (selectNode_ok api).bind ?_
        refine (selectNode_ok page).bind ?_
        exact setting.bind (precaution.bind (lock.bind (last.bind (traced_pure _))))
      have course : Course settings answers (.ok ⟨missing,readOnly⟩)
          ((before ++ [some (.selectedTreeNode window "API"),none]) ++
            (some (.selectedTreeNode window "Settings") :: none :: settingCalls) ++ precautionCalls ++
            lockCalls ++ lastCalls) := by
        refine @Course.done settings answers _ window _ _ _ _ _ second ?_ ?_ ?_ visitsPrecautions
          visitsLock after
        · intro action among
          simp only [List.mem_append,List.mem_cons,Option.some.injEq,reduceCtorEq,List.not_mem_nil,
            or_false] at among
          exact among.imp (idle action) id
        · rw [List.length_append]
          exact page
        · intro action among
          exact there action (by simpa using among)
      refine ⟨_,_,traced,?_⟩
      simpa using course

theorem Course.early {before : List (Option UiAction)} (e : String)
    (idle : ∀ action, some action ∈ before → IsIdle action) : Course settings answers (.error e) before :=
  .stopped e fun _ action carried => .inl (idle action (List.mem_of_getElem? carried))

/-- From the windows that were listed by the first call. -/
theorem listed_course (shown : List WindowInfo) :
    ∃ result calls, Traced answers (match shown.find? fun window => isGatewayTitle window.title with
        | none => fail "Main Gateway window not found — cannot apply API config"
        | some win => do
          match ← openConfig win 3 with
          | none => fail "Configuration dialog not found after 3 attempts"
          | some configWin => configure settings configWin.id : Ui ApiConfigReport) 1 result calls ∧
      Course settings answers result (none :: calls) := by
  cases shown.find? fun window => isGatewayTitle window.title with
  | none => exact ⟨_,_,traced_fail _,.early _ (by simp)⟩
  | some win =>
    obtain ⟨opened,opening,traced,idle⟩ := @openConfig_calls answers win 3 1
    cases opened with
    | none => exact ⟨_,_,traced.bind (traced_fail _),.early _ (by simpa using idle)⟩
    | some configWin =>
      have quiet : ∀ action, some action ∈ none :: opening → IsIdle action := by simpa using idle
      obtain ⟨result,calls,configured,course⟩ := @configure_course settings answers
        configWin.id _ quiet
      rw [List.length_cons,Nat.add_comm] at configured
      exact ⟨result,_,traced.bind configured,course⟩

theorem applyApiConfig_course (settings : ApiConfigSettings) (answers : UiAnswers) :
    ∃ result calls, Traced answers (applyApiConfig settings) 0 result calls ∧
      Course settings answers result calls := by
  unfold applyApiConfig
  split
  next unset => exact ⟨_,_,traced_pure _,.nothing _ (by simpa using unset)⟩
  next =>
    have listing := @traced_await UiAnswers UiAction String Unit _ answers 0 UiAnswers.listWindows
    cases windows : answers.listWindows 0 with
    | error e =>
      rw [windows] at listing
      exact ⟨_,_,listing.bind (traced_fail _).bind_error,.early _ (by simp)⟩
    | ok shown =>
      rw [windows] at listing
      obtain ⟨result,calls,traced,course⟩ := @listed_course settings answers shown
      exact ⟨result,_,listing.bind (Traced.bind (traced_pure shown) traced),course⟩

end Course

section Guards

variable {settings} {answers : UiAnswers} {window : WindowId}

/-- A selection opens its node, and a write uses it. -/
def pageAccess (settings : ApiConfigSettings) : Access UiAction (WindowId × String) where
  opens
    | .selectedTreeNode window node => some (window,node)
    | _ => none
  uses := IsWrite
  allowed place action := ∃ page : Page, page.node = place.2 ∧ Belongs settings place.1 page action

def granted (answers : UiAnswers) (n : Nat) : Bool := decide (answers.selectTreeNode n = .ok true)

theorem eq_select {action : UiAction} {place : WindowId × String}
    (opens : (pageAccess settings).opens action = some place) :
    action = .selectedTreeNode place.1 place.2 := by
  cases action with
  | selectedTreeNode window node =>
    obtain rfl := Option.some.inj opens
    rfl
  | _ => cases opens

theorem IsIdle.not_write {action : UiAction} (idle : IsIdle action) : ¬ IsWrite action := by
  cases action <;> simp_all [IsIdle,IsWrite]

theorem OnPage.opens {page : Page} {action : UiAction} (there : OnPage settings window page action) :
    (pageAccess settings).opens action = none := by
  rcases there with idle | belongs
  · cases action <;> first | rfl | cases idle
  · cases belongs <;> rfl

/-- The replies by which the calls reach the pages. -/
def Reached (settings : ApiConfigSettings) (answers : UiAnswers) (calls : List (Option UiAction)) : Prop :=
  ∀ page : Page, page.Requested settings → ∀ window n,
    calls[n]? = some (some (.selectedTreeNode window page.node)) →
      page.Reached (answers.selectTreeNode n)

theorem getElem?_length {α : Type} (front rest : List α) (a : α) :
    (front ++ a :: rest)[front.length]? = some a := by
  rw [List.getElem?_append_right (Nat.le_refl _),Nat.sub_self,List.getElem?_cons_zero]

section Visit

variable {page : Page} {front visit calls : List (Option UiAction)}
  (visits : Visits settings window page visit) (reached : Reached settings answers calls)
  (before : front ++ visit <+: calls)
  (goes : page = .apiSettings → ∃ selected, answers.selectTreeNode front.length = .ok selected)
include visits reached before goes

/-- Where the configuration goes on after the selection of a page, it was answered true. -/
theorem Visits.selected (requested : page.Requested settings) :
    calls[front.length]? = some (some (.selectedTreeNode window page.node)) ∧
      answers.selectTreeNode front.length = .ok true := by
  cases visits with
  | skipped unrequested => exact absurd requested unrequested
  | @visited done there =>
    have selects : calls[front.length]? = some (some (.selectedTreeNode window page.node)) := by
      obtain ⟨rest,rfl⟩ := before
      rw [List.append_assoc,List.cons_append]
      exact getElem?_length _ _ _
    have reply := reached page requested window front.length selects
    refine ⟨selects,?_⟩
    cases page with
    | apiSettings =>
      obtain ⟨selected,answered⟩ := goes rfl
      rw [answered] at reply ⊢
      cases selected with
      | true => rfl
      | false => exact absurd rfl reply
    | precautions => exact reply
    | lockAndExit => exact reply

theorem Visits.guarded (place : Option (WindowId × String)) :
    (pageAccess settings).Guarded (granted answers) place front.length visit := by
  have selected := visits.selected reached before goes
  cases visits with
  | skipped => trivial
  | @visited done there =>
    refine ⟨fun action carried uses => ?_,?_⟩
    · obtain rfl := Option.some.inj carried
      cases uses
    by_cases requested : page.Requested settings
    · apply Access.guarded_of_place
      intro action among
      refine ⟨(there action among).opens,fun uses => ?_⟩
      rcases there action among with idle | belongs
      · exact absurd uses idle.not_write
      · refine ⟨(window,page.node),?_,page,rfl,belongs⟩
        simp [Access.openedBy,pageAccess,granted,(selected requested).2]
    · apply Access.guarded_of_unused
      intro action among uses
      rcases there action among with idle | belongs
      · exact idle.not_write uses
      · exact requested belongs.requested

end Visit

theorem Course.guarded {result : Except String ApiConfigReport} {calls : List (Option UiAction)}
    (course : Course settings answers result calls) (reached : Reached settings answers calls) :
    (pageAccess settings).Guarded (granted answers) none 0 calls := by
  cases course with
  | nothing => trivial
  | stopped e before =>
    apply Access.guarded_of_unused
    intro action among uses
    obtain ⟨n,carried⟩ := List.mem_iff_getElem?.mp among
    obtain idle | ⟨window,node,rfl,-⟩ := before n action carried
    · exact idle.not_write uses
    · cases uses
  | @done report window front api precautions lockAndExit last selected before answered there
      precaution lock after =>
    have second := (List.prefix_append (front ++ some (.selectedTreeNode window "Settings") :: api ++
      precautions) lockAndExit).trans (List.prefix_append _ last)
    have first := (List.prefix_append _ precautions).trans second
    rw [Access.guarded_append,Access.guarded_append,Access.guarded_append,Access.guarded_append]
    refine ⟨⟨⟨⟨?_,?_⟩,?_⟩,?_⟩,?_⟩
    · apply Access.guarded_of_unused
      intro action among uses
      rcases before action among with idle | rfl
      · exact idle.not_write uses
      · cases uses
    · rw [Nat.zero_add]
      exact (Visits.visited there).guarded reached first (fun _ => ⟨selected,answered⟩) _
    · rw [Nat.zero_add]
      exact precaution.guarded reached second nofun _
    · rw [Nat.zero_add]
      exact lock.guarded reached (List.prefix_append _ _) nofun _
    · exact Access.guarded_of_unused fun action among => (after action among).not_write

theorem not_requested (unset : settings.hasSettings = false) (page : Page) : ¬ page.Requested settings := by
  simp only [ApiConfigSettings.hasSettings,Bool.or_eq_false_iff,Option.isSome_eq_false_iff,
    Option.isNone_iff_eq_none] at unset
  cases page <;> simp [Page.Requested,unset]

theorem Course.succeeds {report : ApiConfigReport} {calls : List (Option UiAction)}
    (course : Course settings answers (.ok report) calls) (reached : Reached settings answers calls)
    (page : Page) (requested : page.Requested settings) :
    ∃ window n, calls[n]? = some (some (.selectedTreeNode window page.node)) ∧
      answers.selectTreeNode n = .ok true := by
  cases course with
  | nothing _ unset => exact absurd requested (not_requested unset page)
  | @done report window front api precautions lockAndExit last selected before answered there
      precaution lock after =>
    have second := (List.prefix_append (front ++ some (.selectedTreeNode window "Settings") :: api ++
      precautions) lockAndExit).trans (List.prefix_append _ last)
    have first := (List.prefix_append _ precautions).trans second
    cases page with
    | apiSettings =>
      exact ⟨window,_,(Visits.visited there).selected reached first (fun _ => ⟨selected,answered⟩)
        requested⟩
    | precautions => exact ⟨window,_,precaution.selected reached second nofun requested⟩
    | lockAndExit => exact ⟨window,_,lock.selected reached (List.prefix_append _ _) nofun requested⟩

/-- The page that a call selects. -/
def pageOf : Option UiAction → Option Page
  | some (.selectedTreeNode _ node) =>
    [Page.apiSettings,.precautions,.lockAndExit].find? fun page => page.node = node
  | _ => none

theorem pageOf_node (window : WindowId) (page : Page) :
    pageOf (some (.selectedTreeNode window page.node)) = some page := by
  cases page <;> rfl

theorem IsIdle.pageOf_eq {action : UiAction} (idle : IsIdle action) : pageOf (some action) = none := by
  cases action <;> first | rfl | cases idle

theorem OnPage.pageOf_eq {page : Page} {action : UiAction} (there : OnPage settings window page action) :
    pageOf (some action) = none := by
  rcases there with idle | belongs
  · exact idle.pageOf_eq
  · cases belongs <;> rfl

/-- The calls that carry no selection of a page. -/
theorem pages_nil {calls : List (Option UiAction)}
    (none_of : ∀ action, some action ∈ calls → pageOf (some action) = none) :
    calls.filterMap pageOf = [] := by
  apply List.filterMap_eq_nil_iff.mpr
  intro call among
  cases call with
  | none => rfl
  | some action => exact none_of action among

theorem Visits.pages {page : Page} {visit : List (Option UiAction)} (visits : Visits settings window page visit) :
    (visit.filterMap pageOf).Sublist [page] := by
  cases visits with
  | skipped => exact List.nil_sublist _
  | visited there =>
    rw [List.filterMap_cons_some (pageOf_node window page),pages_nil fun action among =>
      (there action among).pageOf_eq]

/-- No page is selected twice. -/
theorem Course.pages_nodup {result : Except String ApiConfigReport} {calls : List (Option UiAction)}
    (course : Course settings answers result calls) {report : ApiConfigReport}
    (ok : result = .ok report) : (calls.filterMap pageOf).Nodup := by
  cases course with
  | nothing => exact List.nodup_nil
  | stopped => cases ok
  | @done report window front api precautions lockAndExit last selected before answered there
      precaution lock after =>
    have nothing : front.filterMap pageOf = [] := by
      apply pages_nil
      intro action among
      rcases before action among with idle | rfl
      · exact idle.pageOf_eq
      · rfl
    have rest : last.filterMap pageOf = [] := pages_nil fun action among => (after action among).pageOf_eq
    have settings := (Visits.visited there).pages
    rw [List.filterMap_append,List.filterMap_append,List.filterMap_append,List.filterMap_append,nothing,
      rest,List.nil_append,List.append_nil]
    exact ((settings.append precaution.pages).append lock.pages).nodup (by decide)

theorem eq_of_nodup_filterMap {α β : Type} {f : α → Option β} {list : List α}
    (distinct : (list.filterMap f).Nodup) {i j : Nat} {a b : α} {c : β} (first : list[i]? = some a)
    (second : list[j]? = some b) (same : f a = some c) (same' : f b = some c) : i = j := by
  have apart := List.pairwise_filterMap.mp distinct
  rw [List.pairwise_iff_getElem] at apart
  obtain ⟨inside,rfl⟩ := List.getElem?_eq_some_iff.mp first
  obtain ⟨inside',rfl⟩ := List.getElem?_eq_some_iff.mp second
  rcases Nat.lt_trichotomy i j with before | equal | after
  · exact absurd rfl (apart i j inside inside' before c same c same')
  · exact equal
  · exact absurd rfl (apart j i inside' inside after c same' c same)

theorem Course.reached {result : Except String ApiConfigReport} {calls : List (Option UiAction)}
    (course : Course settings answers result calls)
    (succeeds : ∀ report, result = .ok report → ∀ page : Page, page.Requested settings →
      ∃ window n, calls[n]? = some (some (.selectedTreeNode window page.node)) ∧
        answers.selectTreeNode n = .ok true) : Reached settings answers calls := by
  intro page requested window n selects
  cases outcome : result with
  | ok report =>
    obtain ⟨other,m,selected,reply⟩ := succeeds report outcome page requested
    obtain rfl := eq_of_nodup_filterMap (course.pages_nodup outcome) selects selected
      (pageOf_node window page) (pageOf_node other page)
    cases page with
    | apiSettings =>
      unfold Page.Reached
      rw [reply]
      nofun
    | precautions => exact reply
    | lockAndExit => exact reply
  | error e =>
    rw [outcome] at course
    cases course with
    | stopped _ before =>
      obtain idle | ⟨_,_,same,api | ⟨node,e,answered⟩⟩ := before n _ selects
      · cases idle
      · obtain ⟨-,rfl⟩ := UiAction.selectedTreeNode.inj same
        cases page <;> simp [Page.node] at api
      · obtain ⟨-,rfl⟩ := UiAction.selectedTreeNode.inj same
        cases page with
        | apiSettings =>
          unfold Page.Reached
          rw [answered]
          nofun
        | precautions => simp [Page.node] at node
        | lockAndExit => simp [Page.node] at node

end Guards

section Result

/-- What is written goes to the page that was selected, and a success selected all of them, just
where no page that is to be set answers its selection otherwise. -/
theorem applyApiConfig_onPages_iff (settings : ApiConfigSettings) (answers : UiAnswers) :
    WritesOnSelected settings answers ∧ SucceedsOnSelected settings answers ↔
      PagesReached settings answers := by
  obtain ⟨result,calls,traced,course⟩ := applyApiConfig_course settings answers
  have carries := fun action n => traced.waitsAfter_iff () action n
  have returned := traced.start_result ()
  have reached_iff : PagesReached settings answers ↔ Reached settings answers calls := by
    unfold PagesReached Reached Selects
    simp only [carries]
  rw [reached_iff]
  constructor
  · rintro ⟨-,succeeds⟩
    apply course.reached
    intro report ok page requested
    obtain ⟨window,m,selected,reply⟩ := succeeds report (by rw [returned,ok]; rfl) page requested
    exact ⟨window,m,(carries _ m).mp selected,reply⟩
  · intro reached
    refine ⟨fun n action carried write => ?_,fun report ok page requested => ?_⟩
    · obtain ⟨⟨window,node⟩,⟨page,rfl,belongs⟩,held⟩ :=
        (course.guarded reached).opening ((carries action n).mp carried) write
      obtain ⟨⟨⟩,-⟩ | ⟨m,before,⟨opening,selects,opens⟩,grant,quiet⟩ := held
      obtain rfl := eq_select opens
      rw [Nat.zero_add] at grant
      refine ⟨page,window,belongs,m,before,(carries _ m).mpr selects,of_decide_eq_true grant,?_⟩
      intro k after earlier other node selected
      have closed := quiet k after earlier _ ((carries _ k).mp selected)
      cases closed
    · rw [returned] at ok
      cases result with
      | error e => cases ok
      | ok made =>
        obtain ⟨window,n,selects,reply⟩ := course.succeeds reached page requested
        exact ⟨window,n,(carries _ n).mpr selects,reply⟩

/-- A gateway with its configuration open, and an agent that finds everything but the nodes of the
tree. -/
def lostTree : UiAnswers :=
  { (obliging [⟨⟨1⟩,"IBKR Gateway","JFrame",none⟩,⟨⟨2⟩,"Configuration","JDialog",none⟩]).answers with
    selectTreeNode := fun _ => .ok false }

def bypassing : ApiConfigSettings := ⟨none,none,none,some true,none,none,none,none⟩

/-- The boxes of the precautions are set and success is reported, with no page ever selected. -/
theorem unselected_precautions :
    ¬ WritesOnSelected bypassing lostTree ∧ ¬ SucceedsOnSelected bypassing lostTree := by
  have wrote : (applyApiConfig bypassing).WaitsAfter lostTree ()
      (.setCheckbox ⟨2⟩ "Bypass Order Precautions for API Orders" true) 10 := by
    decide +kernel
  have succeeded : ((applyApiConfig bypassing).start ⟨lostTree,none⟩ ()).result = .ok ⟨0,0⟩ := by
    decide +kernel
  constructor
  · intro onSelected
    obtain ⟨_,_,_,_,_,_,reply,_⟩ := onSelected 10 _ wrote trivial
    cases reply
  · intro onSelected
    obtain ⟨_,_,_,reply⟩ := onSelected _ succeeded .precautions (by simp [Page.Requested,bypassing])
    cases reply

end Result

end Ibctl.Handlers
