namespace Keyspace.Release

def version : String := "1.1.0"

def mode : String := "standalone"

def prompt : String := "127.0.0.1:6379> "

end Keyspace.Release
