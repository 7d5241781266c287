import JobMatrix.Dict

/-! The users that a system comes with. -/

namespace JobMatrix.Users

def homes : Dict String String := [
  ("root", "/root"), ("daemon", "/usr/sbin"), ("bin", "/bin"), ("sys", "/dev"), ("sync", "/bin"),
  ("games", "/usr/games"), ("man", "/var/cache/man"), ("lp", "/var/spool/lpd"),
  ("mail", "/var/mail"), ("news", "/var/spool/news"), ("uucp", "/var/spool/uucp"),
  ("proxy", "/bin"), ("www-data", "/var/www"), ("backup", "/var/backups"), ("list", "/var/list"),
  ("irc", "/run/ircd"), ("_apt", "/nonexistent"), ("nobody", "/nonexistent")]

def home? (user : String) : Option String := Dict.get? homes user

end JobMatrix.Users
