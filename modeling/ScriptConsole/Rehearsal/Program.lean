import ScriptConsole.Rehearsal.Shell

/-!
Workers that are programs of a machine, started by a command line.
-/

namespace ScriptConsole.Rehearsal

/-- The directories of a usual machine. -/
def directories : List String := [
  "/bin", "/boot", "/dev", "/dev/shm", "/etc", "/home", "/lib", "/lib64", "/media", "/mnt", "/opt",
  "/proc", "/root", "/run", "/sbin", "/srv", "/sys", "/tmp", "/usr", "/usr/bin", "/usr/lib",
  "/usr/local", "/usr/local/bin", "/usr/local/sbin", "/usr/sbin", "/usr/share", "/var", "/var/log",
  "/var/tmp"]

/-- Files of a usual machine that are no programs. -/
def plainFiles : List String := [
  "/dev/null", "/dev/zero", "/etc/fstab", "/etc/group", "/etc/hostname", "/etc/hosts",
  "/etc/os-release", "/etc/passwd", "/etc/profile", "/etc/resolv.conf", "/etc/shadow"]

/-- The directories where a program is looked for that is named without any. -/
def searched : List String := [
  "/usr/local/sbin", "/usr/local/bin", "/usr/sbin", "/usr/bin", "/sbin", "/bin"]

/-- The programs that there are. -/
def programs : List String :=
  ["cat", "dash", "date", "echo", "env", "false", "head", "hostname", "id", "ls", "printf", "pwd",
    "sh", "sleep", "sort", "tail", "tee", "true", "uname", "wc", "whoami", "yes"]

/-- Programs that say nothing to a session and leave. -/
def brief : List String :=
  ["date", "false", "hostname", "id", "ls", "pwd", "true", "uname", "whoami"]

def placed (directory name : String) : Path :=
  .ofString (directory ++ "/" ++ name)

/-- The programs in each of the directories that hold them. -/
def programPaths : List Path :=
  ["/bin", "/usr/bin"].flatMap fun directory => programs.map (placed directory)

/-- The files of a usual machine. -/
def machine : Files :=
  let files := directories.foldl (fun files d => files.makeDirectories (.ofString d)) .empty
  (plainFiles.map Path.ofString ++ programPaths).foldl
    (fun files path => (files.write path []).toOption.getD files) files

/-- Start what is at a path, as far as it is a program. -/
def start (files : Files) (path : Path) : Except IoError Unit := do
  match ← files.find path with
  | (_, .directory) => throw .notPermitted
  | (place, .file _) =>
      if programPaths.any (·.parts == place) then return () else throw .notPermitted

/-- Start the first of some paths where there is a program. A path where there is something else
counts if there is none. -/
def startAny (files : Files) (failure : IoError) : List Path → Except IoError Unit
  | [] => .error failure
  | path :: paths =>
      match start files path with
      | .error .notFound | .error .notDirectory => startAny files failure paths
      | .error .notPermitted => startAny files .notPermitted paths
      | result => result

/-- Start the program of a command line. -/
def launch (files : Files) (line : List String) : Except IoError Unit := do
  if line.any fun word => word.toList.contains '\x00' then
    throw (.other "nul byte found in provided data")
  let name := line.headD ""
  if name = "" then throw .notFound
  if name.toList.contains '/' then start files (.ofString name)
  else startAny files .notFound (searched.map fun directory => placed directory name)

/-- What a program does, by its name without directories. -/
def commands : String → List String → List ShellCommand
  | "sh", "-c" :: script :: _ | "dash", "-c" :: script :: _ => ShellCommand.parse script
  | "env", path :: words => commands (baseName path) words
  | "echo", words => [.say ((" ".intercalate words).toUTF8.toList ++ [10]), .leave]
  | "printf", words => ShellCommand.ofWords ("printf" :: words) ++ [.leave]
  | "env", [] => [.leave]
  | name, _ => if brief.contains name then [.leave] else [.stay]
where
  baseName (path : String) : String :=
    String.ofList (path.toList.reverse.takeWhile (· != '/')).reverse

/-- The worker that a command line starts. -/
def Part.ofProgram (line : List String) : Part where
  obstacle files := match launch files line with
    | .ok () => none
    | .error cause => some (line.headD "" ++ ": " ++ cause.message)
  plan := ShellCommand.plan (commands (commands.baseName (line.headD "")) line.tail)

end ScriptConsole.Rehearsal
