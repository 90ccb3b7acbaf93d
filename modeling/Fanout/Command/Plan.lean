import Fanout.Command.Template
import Fanout.Run.Error

/-!
# Checking and planning a job set

Before a run, the template is checked against every job: a blank template refuses the whole
set, and otherwise the jobs that leave a placeholder without a value are counted and the first
is named with its identity. A dry run builds every command and lists the lines it would run,
stopping at the first job whose command cannot be built.
-/

namespace Fanout

namespace Template

/-- Accept a job set, or say why not. -/
def checkJobs (t : Template) (jobs : List Job) : Except CheckError Unit :=
  if t.isBlank then .error (.invalidTask "command template is empty")
  else
    match t.checkAll jobs with
    | [] => .ok ()
    | failures@((i, e) :: _) =>
      let job := jobs.getD i (.file "")
      .error (.validation failures.length (job.identity ++ ": " ++ e.text))

/-- The dry-run lines of every job, or the first error. -/
def plan (t : Template) (fs : Host.Fs) (cwd : String) (jobs : List Job) (maxLen : Nat) :
    Except JobError (List String) :=
  jobs.mapM fun job => (t.build fs cwd job maxLen).map Rendered.dryRunLine

end Template

end Fanout
