import Retry.Unicode.Runs

/-! The binary properties: for each its names, without case and separators, and the
runs of code points without and with it. -/
namespace Retry.Unicode

def propertyTable : List (List String × List String) :=
  [(["asciihexdigit", "ahex"], [
    "1cNaY7N6YqN6Y"]),
    (["alphabetic", "alpha"], [
    "1tNqY6NqY1bN1YaN1Y4N1Y5NnY1NvY1NcqY4NcYeN5Y7N1Y1N1Y2eN1YtNiY1N2Y2N4Y1N1Y6N1Y1N3Y1N1Y1NkY1N2b",
    "Y1N3vY8N4mY1N12Y2N1Y6N15Y13NeY1N1Y1N2Y1N2Y1N1Y8NrY4N4YtNbY5N1kY1N7YeN2uY1N8Y4N8Y4N3YaN3Y2N1Y",
    "gN1cYdN2tYoNxY9N2Y4N1Y5NoY2NjYjNpY7NbY5NoY1N6Y8N1Y8N16YaNcY3N7Y6N24Y1NgY1N3Y4NfYdNjY1N8Y2N2Y",
    "2NmY1N7Y1N1Y3N4Y3N8Y2N2Y2N2Y1N1Y8N1Y4N2Y1N5YcN2YaN1Y4N3Y1N6Y4N2Y2NmY1N7Y1N2Y1N2Y1N2Y4N5Y4N2Y",
    "2N2Y4N1Y7N4Y1N1YhN6YbN3Y1N9Y1N3Y1NmY1N7Y1N2Y1N5Y3N9Y1N3Y1N2Y3N1YfN4YlN4Y4N3Y1N8Y2N2Y2NmY1N7Y",
    "1N2Y1N5Y3N8Y2N2Y2N2Y9N2Y4N2Y1N5YdN1YgN2Y1N6Y3N3Y1N4Y3N2Y1N1Y1N2Y3N2Y3N3Y3NcY4N5Y3N3Y1N3Y3N1Y",
    "6N1Y14NdY1N3Y1NnY1NgY3N8Y1N3Y1N3Y8N2Y1N3Y2N1Y2N4YsN4Y1N8Y1N3Y1NnY1NaY1N5Y3N8Y1N3Y1N3Y8N2Y6N2",
    "Y1N4YdN3YcNdY1N3Y1N15Y2N8Y1N3Y1N3Y1N1Y5N4Y7N5YmN6Y1N3Y1NiY3NoY1N9Y1N1Y2N7Y8N6Y1N1Y1N8YiN2YdN",
    "1mY5N7Y6N1Y1fN2Y1N1Y1N5Y1NoY1N1Y1NjY1N3Y2N5Y1N1Y6N1YeN4YwN1Y1rN8Y1N10Y4NjY4NgY1N10Y1vN1jY1N1",
    "Y2N5YgN1sYaN4Y2N12Y1N1Y5N1Y2N17Y1N99Y1N4Y2N7Y1N1Y1N4Y2N15Y1N4Y2NxY1N4Y2N7Y1N1Y1N4Y2NfY1N1lY1",
    "N4Y2N1vY11NgYgN2eY2N6Y3Nh8Y2NhY1NqY5N23Y3NbY7NkYbNlYcNkYcNdY1N3Y1N2YcN1gY2NjYeN1Y4N1Y1vN2hY7",
    "N17Y5N1yYaNvY1NcY4N9YnNuY2N5YbN18Y4NqY1iNsY4N1rY2NkY1eN1YnN2YbN3Y1dN1gY1NfY1N8Y1fN16Y2N4YaN1",
    "8Y1NbYeN1jYmN3YaN10Y2NbY5N17Y2N3Y15N4Y1N6Y1N2Y3N1Y5N5cYjNyYbN7qY2N6Y2N12Y2N6Y2N8Y1N1Y1N1Y1N1",
    "Y1NvY2N1hY1N7Y1N1Y3N3Y1N7Y3N4Y2N6Y4NdY5N3Y1N7Y38N1YdN1YgNdY2tN1Y4N1Y2NaY1N1Y3N5Y6N1Y1N1Y1N1Y",
    "1N4Y1NbY2N4Y5N5Y4N1YhN15YmlN1gY1eeN6dY6N4Y3N2YcN12Y1N1Y5N1Y2N1kY7N1YgNnY9N7Y1N7Y1N7Y1N7Y1N7Y",
    "1N7Y1N7Y1N7Y1NwY1bN1Yd1N3YpN9Y7N5Y2N5Y4N2eY6N3Y1N2iY1N4Y5N17Y1N2mYhNwY1cNgYe8N534Y1sNh3hY1vN",
    "1aY2N7hY3NgYaN2YkN1bY5N8Y3N35Y13N9Y2N2vY2N1vY2N2Y1N1Y1N8YlNkY1NxYoN1gYcN1wY1N1Y18N6Y3N1Y1N3Y",
    "aNxY5NzYdNtY3N1fY1NcYfN1YgNgYaN5Y1N1jY9NeYiNnY3N1xY1N1Y1N1YoN3Y2NgY2N4YbN6Y2N6Y2N6Y9N7Y1N7Y1",
    "N17Y1NeY6N3fYlN8mcYcNnY4N1dY6isNa6Y2N2yY12N7YcN5Y5NcY1NdY1N5Y1N1Y1N2Y1N2Y1N30YxNa3YiN1sY2N1i",
    "Y14NcY38N5Y1N3rY10NqY6NqYbN2hY3N6Y2N6Y2N6Y2N3YzNcY1NqY1NjY1N2Y1NfY2NeYyN3fY1xN1hY7fNtY3N1dY1",
    "bNwYdNuY5N17Y5NuY2N10Y4N8Y1N5Y16N4eYiN10Y4N10Y4N14Y8N1gYcNbY1NfY1N7Y1N2Y1NbY1NfY1N7Y1N2Y3N1g",
    "YcN8nY9NmYaN8YoN6Y1N16Y1N9Y1xN6Y2N1Y1N18Y1N2Y3N1Y2NnYaNnY9NvY1tNjY1N2YaNmYaNqY1yN1kY6N2Y1sN4",
    "Y1N2Y5N8Y1N3Y1NtY16NtY3NtYzN8Y1NsYrN1iYaNmYaNjYdNiY32N21Y1jN1fYdN1fYdN14YyNsY3N1Y5NnY6yN16Y1",
    "N2Y3N2YgN3Y1jN1Y3NtYaN1Y8NmY16NiY1aNlYrNnY9N1yY17N5YaN1lY9N1YdNpYnN1fYhN4Y8NzY3N1Y9N1sY1N4Y9",
    "N2YaN1Y1N1YzNiY1NyY2N1Y6N4Y1qN7Y1N1Y1N4Y1NfY1NaY7N1lYnN4Y1N8Y2N2Y2NmY1N7Y1N2Y1N5Y3N8Y2N2Y2N2",
    "Y3N1Y6N1Y5N7YsNaY1N1Y2N1Y1N12Y1NaY1N1Y2N1Y1N4Y1N2Y3N1Y1N1Y18N1uY1N3Y1N4YkN3YuN1uY2N2Y1N1Y54N",
    "1iY2N7YpN6YyN1rY1N1Y3N1Y1nN1iY2N1Y1zNrY2NeYlN7Y55N1lY2vN1sYvN8Y2N1Y2N8Y1N2Y1NuY1N2Y2N2Y2N4Y2",
    "lN8Y2N1aY2N6Y1N1Y1N2YrN1fY2NaYhN20Y5N1YiN21Y5jNxYvN9Y1N19Y1N7Y1N1Y1dNuY2NmY1NeY21N7Y1N2Y1N18",
    "Y3N1Y1N2Y1N3Y1N1Y2N2YoN6Y1N2Y1N11Y1N2Y1N4Y1N1Y93NnY9NhY1N15Y3N3Y33N1Y27NpmY2uN33YhN5gY218N2p",
    "YfNtsYhN6YpN32zY5Ng7Y5a1N1bY1chNftY7NvYhN27YhNuYiN1cYgN4YvNlY5NjYc0N19Y5vN1sY3kN23Y4N1lY7NhY",
    "1sN2Y1N1YcN2YeN4qgY8NyeY15NaY6w7N4Y1N7Y1N2Y1N83YfN1YtN3Y2N1YeN4Y8Nb0Y1s4N2zY5NdY3N9Y7NaY4N1Y",
    "4m9N2dY1N1zY1N2Y2N1Y2N2Y2N4Y1NcY1N1Y1N7Y1N1tY1N4Y2N8Y1N7Y1NsY1N4Y1N5Y1N1Y3N7Y1N9gY2NpY1NpY1N",
    "vY1NpY1NvY1NpY1NvY1NpY1NvY1NpY1N8Y1f8NvY6N6Y5xN7Y1NhY2N7Y1N2Y1N5Y5N1qYxN1Y34N19YaN7YgN1Y8xNu",
    "YiN18YdgNsY6cNuY2N1YdrN7Y1N4Y1N2Y1NfY1N5hY1nN1wY3N1Y3N1YxgN4Y1NrY1N2Y1N1Y2N1Y1NaY1N4Y1N1Y1N1",
    "Y6N1Y4N1Y1N1Y1N1Y1N3Y1N2Y1N1Y2N1Y1N1Y1N1Y1N1Y1N1Y1N2Y1N1Y2N4Y1N7Y1N4Y1N4Y1N1Y1NaY1NhY5N3Y1N5",
    "Y1NhYhgNqY6NqY6NqY2uuNwyoYwN37eY6N66Y2N4g2YeN5rlYfNhaY1wiNf2Y15uN3t7Y5N38gY"]),
    (["bidicontrol", "bidic"], [
    "17gN1Y54hN2YqN5Y1jN4Y"]),
    (["bidimirrored", "bidim"], [
    "14N2YiN1Y1N1YsN1Y1N1YtN1Y1N1Y19N1YfN1Y2v2N4Y1gdN2Y1wcN2YaN2Y1iN2YeN2Y4xN1Y5cN4Y3N6Y3N1Y3N2Y3",
    "N4Y1N4Y1N1Y1N1Y4N9Y5N1Y1NiY5N4Y9N2Y1N1Y1N8Y1NwY2N4Y5N1Y9N2Y2NjY5N2Y9N5Y2N2Y4NoY2NgY8N4YkN2Y7",
    "N2Yu5NeY22N1Y2N4Y1N2Y1N3Y5N4Y5N3Y3NeYb7NmY2N6Y1NeY8N1Y7N6Y3N1Y4N5Y1N2Y2N5Y4N1Y1N3Y2N2YaN6Y2N",
    "2YcNjY1N4Y2N1Y1N1Y2N1Y1N4Y5N2Y6N3YoN2YbN2Y4N4Y1N2Y2N2Y4N17Y2N8Y1N14Y5N1Y1N1Y3N5Y5N3Y4N1Y3N5Y",
    "1N1Y74N1YebN4Y3N2Y1N2YeN2Y2NaY17N8YbvNaY2N8Y14qlN6Y5N2Y4iN2YiN1Y1N1YsN1Y1N1YtN1Y1N1Y1N2Y1N2Y",
    "16k7N1Y1lN1Y1lN1Y1lN1Y1lN1Y"]),
    (["caseignorable", "ci"], [
    "13N1Y6N1YbN1YzN1Y1N1Y1zN1Y4N1Y1N1Y4N1Y2N2YdzN5cY4N2Y4N1Y9N2Y1N1Y6zN7Y5rN1Y5N1Y1dN19Y1N1Y1N2Y",
    "1N2Y1N1Y18N1YbN6YaNbY1N1YzN1YaNlYgN1Y2tN8Y1NaY1N4YxN1Y1N1YuNrY2jNbY1mNbY4N1Y2N1YoNoY17N3Y18N",
    "1Y7N2Y5N9Y15N1mY1jN1Y1N1Y4N8Y4N1Y3N7YaN2YdN1YfN1Y1mN1Y4N4Y8N1YkN2YqN1Y2N2Y1lN1Y4N2Y4N2Y2N3Y3",
    "N1YuN2Y3N1YbN2Y1lN1Y4N5Y1N2Y4N1YkN2YmN6Y1N1Y1mN1Y2N1Y1N4Y8N1Y7N2YbN2YuN1Y1pN1YcN1Y1eN1Y3N1Y1",
    "jN1Y1N3Y5N3Y1N4Y7N2YbN2YtN1Y1mN1Y2N1Y6N1Y5N2YkN2YsN2Y1lN2Y4N4Y8N1YkN2YtN1Y20N1Y7N3Y1N1Y2iN1Y",
    "2N7YbN9Y2qN1Y2N9Y9N1Y1N7Y21N2YrN1Y1N1Y1N1Y1jNeY1N5Y1N2Y5NbY1N10Y9N1Y2uN4Y1N6Y1N2Y2N2YpN2Y4N3",
    "YgN4YdN1Y2N2Y6N1YfN1Y2mN1YgwN3YqaN3YtN2YuN2YuN2Y1sN2Y1N7Y8N1Y2NbY3N1Y5N1Y19N5Y1fN1Y1tN2YyN1Y",
    "3aN3Y4N2Y9N1Y6N3Y63N2Y2N1Y1mN1Y1N7Y1N1Y1N1Y2N8Y6NaY2N1Y13N1Y8NvY1dN4Y1cN1Y1N5Y1N1Y5N1Y14N9Yc",
    "N2YwN4Y2N2Y1N3Y1kN1Y1N2Y3N1Y1N3Y1mN8Y2N2Y1sN6Y2aN3Y1NdY1N7Y4N1Y6N1Y3N2Y1eN1rYdN1YyN2tYcdN1Y1",
    "N3YbN3YdN3YdN3YdN2YcN5Y8N2YaN1Y2N1Y2N5Y1dN5Y1NaY1N1YdN1YgNdY1fNxY2a3N2Y35N3Y3hN1YfN1Y2oNwY1b",
    "N1Yd1N1Y10N4Y3N5Y5N1Y2lN6Y2lN3YlxyN1YyqN6Y7iN1Y2qN4Y1NaY1N1YsN4Y28N2YeNyY26N1YnN3Y2vN3Y3N2Y8",
    "N1Y3N1Y4N1YpN2Y5N1Y47N2YqNiYdN1Y12N8YpNbY1aN3Y1cN1Y2N4Y2N2YhN1YlN2Y1uN6Y2N2Y2N2YcN1Y8N1YzN1Y",
    "bN1Y1fN1Y1N3Y2N2Y5N2Y1N1YrN1YeN2Y5N2Y1N1Y2sN5Y9N3Y3dN1Y2N1Y4N1Yfn4N1Y43NhYfxNgY3N1YcNgYyN1Y2",
    "N1Y4pN1Y7N1Y6N1YbN1YzN1Y1N1Y1bN1Y19N2Y1vN1YlN3Ye9N1Y6aN1Y45N5YslN6Y1N16Y1N9Yg6N3Y1N2Y5N4Y14N",
    "3Y4N1Y4lN2YfxN4Y12N1YqN5Y1N1Y8rN2Y27N4Y1yNbY1dN4Y3fN1Y1iNfY15N1Y2N2YaN3Y1dN4Y2N2Y2N1Y4N1YaN1",
    "Y1eN3Y10N5Y1N8Y1qN1YcN2Y1gN9YaN4Y2N1Y2nN3Y2N1Y1N2Y6N1Y2N1Y4dN1Y3N8YlN2Y1lN2Y3N1Y11N7Y3N5Y1yN",
    "6YdN1Y1N1Y1N1YeN2Y2dN8Y2N3Y1N1YnN1Y2cN6Y1N1Y4N2Y1N2Y6mN4Y6N2Y1N2YrN2Y2dN8Y2N1Y1N2Y2yN1Y1N1Y2",
    "N6Y1N1Y2tN1Y1N1Y2N4Y1N5Y77N9Y1N2Y74N2Y1N1Y4N1Y40N4Y2N2Y4N1YwNaY14N6Y2N4Y8N1Y9N6Y2N3Y1aNdY1N2",
    "YbaN7Y1N6Y1N1Y2aNmY2N7Y1N2Y1N2Y3eN6Y3N1Y1N2Y1N7Y1N1Y20N2Y3N1Y1N1Y9nN2YbN2Y1gN5Y5N1Y1N1YnN1Y4",
    "45NhY6NfY8ugNcY3N3Y1xcN5Y1nN7Y9N4Ye4N3Y14N2YdeN1Y1rNhY1sN2Y1N2YcnfN4Y1N7Y1N2Y2hqN2Y1N4Y3mkN1",
    "aY2NnYf4N3Y9NgY2N7YuN4Y44N3Y1izN1jY4N1eY8N1YeN1YmN5Y1NfY11sN7Y1NhY2N7Y1N2Y1N5Y5N1qYxN1Y4gNeY",
    "a8N1Y1pN4Ye3N5Y72N2YkgN7Y31N8Y23zN5Ygx6pN1YuN2oY3kN6oY"]),
    (["cased"], [
    "1tNqY6NqY1bN1YaN1Y4N1Y5NnY1NvY1N5fY1N4Y4N5sY2NzY7N2YuN5Y2oN1Y16N4Y2N2Y2N4Y1N1Y6N1Y1N3Y1N1Y1N",
    "kY1N2bY1N3vY8N4mY1N12Y9N15Y26vN12Y1N1Y5N1Y2N17Y1N4YioN2eY2N6Y1oiNbY5N17Y2N3Y1sN5cY1sN7qY2N6Y",
    "2N12Y2N6Y2N8Y1N1Y1N1Y1N1Y1NvY2N1hY1N7Y1N1Y3N3Y1N7Y3N4Y2N6Y4NdY5N3Y1N7Y38N1YdN1YgNdY2tN1Y4N1Y",
    "2NaY1N1Y3N5Y6N1Y1N1Y1N1Y1N4Y1N6Y4N1Y2N4Y5N5Y4N1YhNwY3N2YmpN1gY1eeN6dY6N4Y3N2YcN12Y1N1Y5N1Ynw",
    "yN1aYiNuY3oN2uY3N4Y1N1qY2N2Y1N1Y1N8YlN5Y1N3YmtN17Y1NeY6N28YfnkN7YcN5YspNqY6NqYx1N28Y2oN10Y4N",
    "10Y38NbY1NfY1N7Y1N2Y1NbY1NfY1N7Y1N2YcjN1Y2N3Y1N16Y1N9YxxN1fYdN1fY2lNmYaNmY26yN1sYgv4N1sYk1sN",
    "2dY1N1zY1N2Y2N1Y2N2Y2N4Y1NcY1N1Y1N7Y1N1tY1N4Y2N8Y1N7Y1NsY1N4Y1N5Y1N1Y3N7Y1N9gY2NpY1NpY1NvY1N",
    "pY1NvY1NpY1NvY1NpY1NvY1NpY1N8Y1f8NaY1NkY6N6Y79N1qY1oyN1wY1kcNqY6NqY6NqY"]),
    (["changeswhencasefolded", "cwcf"], [
    "1tNqY2iN1YaNnY1N8YwN1Y1N1Y1N1Y1N1Y1N1Y1N1Y1N1Y1N1Y1N1Y1N1Y1N1Y1N1Y1N1Y1N1Y1N1Y1N1Y1N1Y1N1Y1N",
    "1Y1N1Y1N1Y1N1Y1N1Y1N1Y1N1Y1N1Y1N1Y1N1Y2N1Y1N1Y1N1Y1N1Y1N1Y1N1Y1N1Y1N1Y1N2Y1N1Y1N1Y1N1Y1N1Y1N",
    "1Y1N1Y1N1Y1N1Y1N1Y1N1Y1N1Y1N1Y1N1Y1N1Y1N1Y1N1Y1N1Y1N1Y1N1Y1N1Y1N1Y1N1Y1N2Y1N1Y1N1Y1N1Y1N2Y1N",
    "1Y1N2Y1N3Y2N4Y1N2Y1N3Y3N2Y1N2Y1N1Y1N1Y1N2Y1N1Y2N1Y1N2Y1N3Y1N1Y1N2Y3N1Y7N2Y1N2Y1N2Y1N1Y1N1Y1N",
    "1Y1N1Y1N1Y1N1Y1N1Y1N1Y2N1Y1N1Y1N1Y1N1Y1N1Y1N1Y1N1Y1N1Y1N1Y2N2Y1N1Y1N3Y1N1Y1N1Y1N1Y1N1Y1N1Y1N",
    "1Y1N1Y1N1Y1N1Y1N1Y1N1Y1N1Y1N1Y1N1Y1N1Y1N1Y1N1Y1N1Y1N1Y1N1Y1N1Y1N1Y1N1Y1N1Y1N1Y1N1Y1N1Y1N1Y1N",
    "1Y7N2Y1N2Y2N1Y1N4Y1N1Y1N1Y1N1Y1N1Y6uN1Y16N1Y1N1Y3N1Y8N1Y6N1Y1N3Y1N1Y1N2Y1NhY1N9YmN1YcN3Y3N2Y",
    "1N1Y1N1Y1N1Y1N1Y1N1Y1N1Y1N1Y1N1Y1N1Y1N1Y1N1Y1N1Y1N2Y2N2Y1N1Y1N2Y2N1fY1cN1Y1N1Y1N1Y1N1Y1N1Y1N",
    "1Y1N1Y1N1Y1N1Y1N1Y1N1Y1N1Y1N1Y1N1Y1N1Y1N1Y1N1Y9N1Y1N1Y1N1Y1N1Y1N1Y1N1Y1N1Y1N1Y1N1Y1N1Y1N1Y1N",
    "1Y1N1Y1N1Y1N1Y1N1Y1N1Y1N1Y1N1Y1N1Y1N1Y1N1Y1N1Y1N1Y1N1Y1N1Y1N1Y1N2Y1N1Y1N1Y1N1Y1N1Y1N1Y1N1Y2N",
    "1Y1N1Y1N1Y1N1Y1N1Y1N1Y1N1Y1N1Y1N1Y1N1Y1N1Y1N1Y1N1Y1N1Y1N1Y1N1Y1N1Y1N1Y1N1Y1N1Y1N1Y1N1Y1N1Y1N",
    "1Y1N1Y1N1Y1N1Y1N1Y1N1Y1N1Y1N1Y1N1Y1N1Y1N1Y1N1Y1N1Y1N1Y1N1Y1N1Y1N1Y1N1Y1N1Y1N1Y1N1Y1N1Y1N1Y1N",
    "1Y1N1Y2N12Y1cN1Y26wN12Y1N1Y5N1YmiN6Y1oiNaY6N17Y2N3Y8wN1Y1N1Y1N1Y1N1Y1N1Y1N1Y1N1Y1N1Y1N1Y1N1Y",
    "1N1Y1N1Y1N1Y1N1Y1N1Y1N1Y1N1Y1N1Y1N1Y1N1Y1N1Y1N1Y1N1Y1N1Y1N1Y1N1Y1N1Y1N1Y1N1Y1N1Y1N1Y1N1Y1N1Y",
    "1N1Y1N1Y1N1Y1N1Y1N1Y1N1Y1N1Y1N1Y1N1Y1N1Y1N1Y1N1Y1N1Y1N1Y1N1Y1N1Y1N1Y1N1Y1N1Y1N1Y1N1Y1N1Y1N1Y",
    "1N1Y1N1Y1N1Y1N1Y1N1Y1N1Y1N1Y1N1Y1N1Y1N1Y1N1Y1N1Y1N1Y1N1Y1N1Y1N1Y1N1Y1N1Y1N1Y5N2Y2N1Y1N1Y1N1Y",
    "1N1Y1N1Y1N1Y1N1Y1N1Y1N1Y1N1Y1N1Y1N1Y1N1Y1N1Y1N1Y1N1Y1N1Y1N1Y1N1Y1N1Y1N1Y1N1Y1N1Y1N1Y1N1Y1N1Y",
    "1N1Y1N1Y1N1Y1N1Y1N1Y1N1Y1N1Y1N1Y1N1Y1N1Y1N1Y1N1Y1N1Y1N1Y1N1Y1N1Y1N1Y1N1Y1N1Y1N1Y1N1Y1N1Y1N1Y",
    "9N8Y8N6YaN8Y8N8Y8N6YbN1Y1N1Y1N1Y1N1Y8N8YgN1cY2N3Y2N6Y5N3Y2N6YbN4YcN5Y5N3Y2N6Y89N1Y3N2Y6N1Y19",
    "NgYjN1YmqNqY1f4N1cY1cN1Y1N3Y2N1Y1N1Y1N1Y1N4Y1N1Y2N1Y8N3Y1N1Y1N1Y1N1Y1N1Y1N1Y1N1Y1N1Y1N1Y1N1Y",
    "1N1Y1N1Y1N1Y1N1Y1N1Y1N1Y1N1Y1N1Y1N1Y1N1Y1N1Y1N1Y1N1Y1N1Y1N1Y1N1Y1N1Y1N1Y1N1Y1N1Y1N1Y1N1Y1N1Y",
    "1N1Y1N1Y1N1Y1N1Y1N1Y1N1Y1N1Y1N1Y1N1Y1N1Y1N1Y1N1Y1N1Y1N1Y1N1Y1N1Y1N1Y8N1Y1N1Y4N1YnylN1Y1N1Y1N",
    "1Y1N1Y1N1Y1N1Y1N1Y1N1Y1N1Y1N1Y1N1Y1N1Y1N1Y1N1Y1N1Y1N1Y1N1Y1N1Y1N1Y1N1Y1N1Y1N1Y1N1YjN1Y1N1Y1N",
    "1Y1N1Y1N1Y1N1Y1N1Y1N1Y1N1Y1N1Y1N1Y1N1Y1N1Y1N1Y3rN1Y1N1Y1N1Y1N1Y1N1Y1N1Y1N1Y3N1Y1N1Y1N1Y1N1Y1",
    "N1Y1N1Y1N1Y1N1Y1N1Y1N1Y1N1Y1N1Y1N1Y1N1Y1N1Y1N1Y1N1Y1N1Y1N1Y1N1Y1N1Y1N1Y1N1Y1N1Y1N1Y1N1Y1N1Y1",
    "N1Y1N1Y1N1Y1N1YaN1Y1N1Y1N2Y1N1Y1N1Y1N1Y1N1Y4N1Y1N1Y2N1Y1N1Y3N1Y1N1Y1N1Y1N1Y1N1Y1N1Y1N1Y1N1Y1",
    "N1Y1N1Y1N5Y1N5Y1N1Y1N1Y1N1Y1N1Y1N1Y1N1Y1N1Y1N4Y1N1Y1N2Y3N1Y5N1Y1N1Y1N1Y1N1YoN1YoqN28YfnkN7Yc",
    "N5YspNqYxxN14Y3sN10Y4cNbY1NfY1N7Y1N2Y1d6N1fY4dNmY27uNwYgw0NwYo80NyY"]),
    (["changeswhencasemapped", "cwcm"], [
    "1tNqY6NqY1mN1YaNnY1NvY1N1sY1N2cY1NsY2NeY2N2Y1N1Y4N2lY1NiY6NrY1N2Y1N1Y1N2Y3N2Y1N4Y1N5Y2N1Y1N2",
    "Y2N1Y7N1Y2N1Y1N2Y3N6Y5N1YaN2Y4mN1Y16N4Y2N2Y3N3Y1N1Y6N1Y1N3Y1N1Y1NkY1N1bY3NxY1N5Y1N3pY8N4mY1N",
    "12YaN13Y26wN12Y1N1Y5N1Y2N17Y2N3YioN2eY2N6Y1oiNbY5N17Y2N3Y55N1Y3N1YgN1Y35N4cY2N1Y1N3aY2N6Y2N1",
    "2Y2N6Y2N8Y1N1Y1N1Y1N1Y1NvY2N1hY1N7Y1N1Y3N3Y1N7Y3N4Y2N6Y4NdY5N3Y1N7Y89N1Y3N2Y6N1YrN1YhNwY3N2Y",
    "mpN1gY1eeN35Y1N2Y1N2Y7N2uY7N4Y3N2YcN12Y1N1Y5N1YnwyN1aYiNsY3qNeY2N1qY9NfY3N3Y2N5Y1NpY1NuY2N2Y",
    "1N1Y1N8YoN2YnwN1YsN28YfnkN7YcN5YspNqY6NqYx1N28Y2oN10Y4N10Y38NbY1NfY1N7Y1N2Y1NbY1NfY1N7Y1N2Y1",
    "c3N1fYdN1fY2lNmYaNmY26yN1sYgv4N1sYo74N1wY"]),
    (["changeswhenlowercased", "cwl"], [
    "1tNqY2tNnY1N7YxN1Y1N1Y1N1Y1N1Y1N1Y1N1Y1N1Y1N1Y1N1Y1N1Y1N1Y1N1Y1N1Y1N1Y1N1Y1N1Y1N1Y1N1Y1N1Y1N",
    "1Y1N1Y1N1Y1N1Y1N1Y1N1Y1N1Y1N1Y1N1Y2N1Y1N1Y1N1Y1N1Y1N1Y1N1Y1N1Y1N1Y2N1Y1N1Y1N1Y1N1Y1N1Y1N1Y1N",
    "1Y1N1Y1N1Y1N1Y1N1Y1N1Y1N1Y1N1Y1N1Y1N1Y1N1Y1N1Y1N1Y1N1Y1N1Y1N1Y1N1Y1N2Y1N1Y1N1Y3N2Y1N1Y1N2Y1N",
    "3Y2N4Y1N2Y1N3Y3N2Y1N2Y1N1Y1N1Y1N2Y1N1Y2N1Y1N2Y1N3Y1N1Y1N2Y3N1Y7N2Y1N2Y1N2Y1N1Y1N1Y1N1Y1N1Y1N",
    "1Y1N1Y1N1Y1N1Y2N1Y1N1Y1N1Y1N1Y1N1Y1N1Y1N1Y1N1Y1N1Y2N2Y1N1Y1N3Y1N1Y1N1Y1N1Y1N1Y1N1Y1N1Y1N1Y1N",
    "1Y1N1Y1N1Y1N1Y1N1Y1N1Y1N1Y1N1Y1N1Y1N1Y1N1Y1N1Y1N1Y1N1Y1N1Y1N1Y1N1Y1N1Y1N1Y1N1Y1N1Y1N1Y7N2Y1N",
    "2Y2N1Y1N4Y1N1Y1N1Y1N1Y1N1Y81N1Y1N1Y3N1Y8N1Y6N1Y1N3Y1N1Y1N2Y1NhY1N9YzN1Y8N1Y1N1Y1N1Y1N1Y1N1Y1",
    "N1Y1N1Y1N1Y1N1Y1N1Y1N1Y1N1Y5N1Y2N1Y1N2Y2N1fY1cN1Y1N1Y1N1Y1N1Y1N1Y1N1Y1N1Y1N1Y1N1Y1N1Y1N1Y1N1",
    "Y1N1Y1N1Y1N1Y1N1Y1N1Y9N1Y1N1Y1N1Y1N1Y1N1Y1N1Y1N1Y1N1Y1N1Y1N1Y1N1Y1N1Y1N1Y1N1Y1N1Y1N1Y1N1Y1N1",
    "Y1N1Y1N1Y1N1Y1N1Y1N1Y1N1Y1N1Y1N1Y1N1Y1N2Y1N1Y1N1Y1N1Y1N1Y1N1Y1N1Y2N1Y1N1Y1N1Y1N1Y1N1Y1N1Y1N1",
    "Y1N1Y1N1Y1N1Y1N1Y1N1Y1N1Y1N1Y1N1Y1N1Y1N1Y1N1Y1N1Y1N1Y1N1Y1N1Y1N1Y1N1Y1N1Y1N1Y1N1Y1N1Y1N1Y1N1",
    "Y1N1Y1N1Y1N1Y1N1Y1N1Y1N1Y1N1Y1N1Y1N1Y1N1Y1N1Y1N1Y1N1Y1N1Y1N1Y1N1Y1N1Y1N1Y2N12Y289N12Y1N1Y5N1",
    "Yk2N2eY1ozN1Y6N17Y2N3Y8wN1Y1N1Y1N1Y1N1Y1N1Y1N1Y1N1Y1N1Y1N1Y1N1Y1N1Y1N1Y1N1Y1N1Y1N1Y1N1Y1N1Y1",
    "N1Y1N1Y1N1Y1N1Y1N1Y1N1Y1N1Y1N1Y1N1Y1N1Y1N1Y1N1Y1N1Y1N1Y1N1Y1N1Y1N1Y1N1Y1N1Y1N1Y1N1Y1N1Y1N1Y1",
    "N1Y1N1Y1N1Y1N1Y1N1Y1N1Y1N1Y1N1Y1N1Y1N1Y1N1Y1N1Y1N1Y1N1Y1N1Y1N1Y1N1Y1N1Y1N1Y1N1Y1N1Y1N1Y1N1Y1",
    "N1Y1N1Y1N1Y1N1Y1N1Y1N1Y1N1Y1N1Y1N1Y1N1Y1N1Y1N1Y9N1Y1N1Y1N1Y1N1Y1N1Y1N1Y1N1Y1N1Y1N1Y1N1Y1N1Y1",
    "N1Y1N1Y1N1Y1N1Y1N1Y1N1Y1N1Y1N1Y1N1Y1N1Y1N1Y1N1Y1N1Y1N1Y1N1Y1N1Y1N1Y1N1Y1N1Y1N1Y1N1Y1N1Y1N1Y1",
    "N1Y1N1Y1N1Y1N1Y1N1Y1N1Y1N1Y1N1Y1N1Y1N1Y1N1Y1N1Y1N1Y1N1Y1N1Y9N8Y8N6YaN8Y8N8Y8N6YbN1Y1N1Y1N1Y1",
    "N1Y8N8YoN8Y8N8Y8N8Y8N5YbN5YbN4YcN5YbN5Y89N1Y3N2Y6N1Y19NgYjN1YmqNqY1f4N1cY1cN1Y1N3Y2N1Y1N1Y1N",
    "1Y1N4Y1N1Y2N1Y8N3Y1N1Y1N1Y1N1Y1N1Y1N1Y1N1Y1N1Y1N1Y1N1Y1N1Y1N1Y1N1Y1N1Y1N1Y1N1Y1N1Y1N1Y1N1Y1N",
    "1Y1N1Y1N1Y1N1Y1N1Y1N1Y1N1Y1N1Y1N1Y1N1Y1N1Y1N1Y1N1Y1N1Y1N1Y1N1Y1N1Y1N1Y1N1Y1N1Y1N1Y1N1Y1N1Y1N",
    "1Y1N1Y1N1Y1N1Y1N1Y1N1Y1N1Y1N1Y8N1Y1N1Y4N1YnylN1Y1N1Y1N1Y1N1Y1N1Y1N1Y1N1Y1N1Y1N1Y1N1Y1N1Y1N1Y",
    "1N1Y1N1Y1N1Y1N1Y1N1Y1N1Y1N1Y1N1Y1N1Y1N1Y1N1YjN1Y1N1Y1N1Y1N1Y1N1Y1N1Y1N1Y1N1Y1N1Y1N1Y1N1Y1N1Y",
    "1N1Y1N1Y3rN1Y1N1Y1N1Y1N1Y1N1Y1N1Y1N1Y3N1Y1N1Y1N1Y1N1Y1N1Y1N1Y1N1Y1N1Y1N1Y1N1Y1N1Y1N1Y1N1Y1N1",
    "Y1N1Y1N1Y1N1Y1N1Y1N1Y1N1Y1N1Y1N1Y1N1Y1N1Y1N1Y1N1Y1N1Y1N1Y1N1Y1N1Y1N1YaN1Y1N1Y1N2Y1N1Y1N1Y1N1",
    "Y1N1Y4N1Y1N1Y2N1Y1N1Y3N1Y1N1Y1N1Y1N1Y1N1Y1N1Y1N1Y1N1Y1N1Y1N1Y1N5Y1N5Y1N1Y1N1Y1N1Y1N1Y1N1Y1N1",
    "Y1N1Y1N4Y1N1Y1N2Y3N1Y5N1Y1N1Y1N1Y1N1YoN1Yh7vNqYxxN14Y3sN10Y4cNbY1NfY1N7Y1N2Y1d6N1fY4dNmY27uN",
    "wYgw0NwYo80NyY"]),
    (["changeswhentitlecased", "cwt"], [
    "2pNqY1mN1Y15NoY1N8Y1N1Y1N1Y1N1Y1N1Y1N1Y1N1Y1N1Y1N1Y1N1Y1N1Y1N1Y1N1Y1N1Y1N1Y1N1Y1N1Y1N1Y1N1Y1",
    "N1Y1N1Y1N1Y1N1Y1N1Y1N1Y1N1Y1N1Y1N1Y1N1Y2N1Y1N1Y1N1Y1N1Y1N1Y1N1Y1N1Y1N2Y1N1Y1N1Y1N1Y1N1Y1N1Y1",
    "N1Y1N1Y1N1Y1N1Y1N1Y1N1Y1N1Y1N1Y1N1Y1N1Y1N1Y1N1Y1N1Y1N1Y1N1Y1N1Y1N1Y1N1Y2N1Y1N1Y1N3Y2N1Y1N1Y2",
    "N1Y3N1Y5N1Y2N1Y3N3Y2N1Y2N1Y1N1Y1N1Y2N1Y4N1Y2N1Y3N1Y1N1Y2N1Y3N1Y1N1Y4N1Y1N2Y1N2Y1N1Y1N1Y1N1Y1",
    "N1Y1N1Y1N1Y1N1Y1N1Y1N2Y1N1Y1N1Y1N1Y1N1Y1N1Y1N1Y1N1Y1N1Y1N3Y1N1Y1N1Y3N1Y1N1Y1N1Y1N1Y1N1Y1N1Y1",
    "N1Y1N1Y1N1Y1N1Y1N1Y1N1Y1N1Y1N1Y1N1Y1N1Y1N1Y1N1Y1N1Y1N1Y3N1Y1N1Y1N1Y1N1Y1N1Y1N1Y1N1Y1N1Y1N1Y8",
    "N1Y2N2Y1N1Y4N1Y1N1Y1N1Y1N1Y1N6Y1N2Y1N1Y1N2Y3N2Y1N4Y1N5Y2N1Y1N2Y2N1Y7N1Y2N1Y1N2Y3N6Y5N1YaN2Y4",
    "mN1Y17N1Y1N1Y3N1Y3N3YiN1YrNzY1N2Y3N3Y1N1Y1N1Y1N1Y1N1Y1N1Y1N1Y1N1Y1N1Y1N1Y1N1Y1N1Y1N5Y1N1Y2N1",
    "Y2N1Y1gN1cY1N1Y1N1Y1N1Y1N1Y1N1Y1N1Y1N1Y1N1Y1N1Y1N1Y1N1Y1N1Y1N1Y1N1Y1N1Y1N1Y1N1Y9N1Y1N1Y1N1Y1",
    "N1Y1N1Y1N1Y1N1Y1N1Y1N1Y1N1Y1N1Y1N1Y1N1Y1N1Y1N1Y1N1Y1N1Y1N1Y1N1Y1N1Y1N1Y1N1Y1N1Y1N1Y1N1Y1N1Y1",
    "N1Y2N1Y1N1Y1N1Y1N1Y1N1Y1N1Y1N2Y1N1Y1N1Y1N1Y1N1Y1N1Y1N1Y1N1Y1N1Y1N1Y1N1Y1N1Y1N1Y1N1Y1N1Y1N1Y1",
    "N1Y1N1Y1N1Y1N1Y1N1Y1N1Y1N1Y1N1Y1N1Y1N1Y1N1Y1N1Y1N1Y1N1Y1N1Y1N1Y1N1Y1N1Y1N1Y1N1Y1N1Y1N1Y1N1Y1",
    "N1Y1N1Y1N1Y1N1Y1N1Y1N1Y1N1Y1N1Y1N1Y1N1Y1dN13Y2uoN6Y1oiN9Y1N1Y6mN1Y3N1YgN1Y36N1Y1N1Y1N1Y1N1Y1",
    "N1Y1N1Y1N1Y1N1Y1N1Y1N1Y1N1Y1N1Y1N1Y1N1Y1N1Y1N1Y1N1Y1N1Y1N1Y1N1Y1N1Y1N1Y1N1Y1N1Y1N1Y1N1Y1N1Y1",
    "N1Y1N1Y1N1Y1N1Y1N1Y1N1Y1N1Y1N1Y1N1Y1N1Y1N1Y1N1Y1N1Y1N1Y1N1Y1N1Y1N1Y1N1Y1N1Y1N1Y1N1Y1N1Y1N1Y1",
    "N1Y1N1Y1N1Y1N1Y1N1Y1N1Y1N1Y1N1Y1N1Y1N1Y1N1Y1N1Y1N1Y1N1Y1N1Y1N1Y1N1Y1N1Y1N1Y1N1Y1N1Y1N1Y1N1Y1",
    "N1Y1N7Y5N1Y1N1Y1N1Y1N1Y1N1Y1N1Y1N1Y1N1Y1N1Y1N1Y1N1Y1N1Y1N1Y1N1Y1N1Y1N1Y1N1Y1N1Y1N1Y1N1Y1N1Y1",
    "N1Y1N1Y1N1Y1N1Y1N1Y1N1Y1N1Y1N1Y1N1Y1N1Y1N1Y1N1Y1N1Y1N1Y1N1Y1N1Y1N1Y1N1Y1N1Y1N1Y1N1Y1N1Y1N1Y1",
    "N1Y1N1Y1N1Y1N9Y8N6YaN8Y8N8Y8N6YaN8Y8N8Y8NeY2N8Y8N8Y8N8Y8N5Y1N2Y6N1Y3N3Y1N2Y8N4Y2N2Y8N8YaN3Y1",
    "N2Y9iN1YxNgY4N1YnfNqY1fqN1cY1N1Y3N2Y1N1Y1N1Y1N1Y6N1Y2N1YaN1Y1N1Y1N1Y1N1Y1N1Y1N1Y1N1Y1N1Y1N1Y",
    "1N1Y1N1Y1N1Y1N1Y1N1Y1N1Y1N1Y1N1Y1N1Y1N1Y1N1Y1N1Y1N1Y1N1Y1N1Y1N1Y1N1Y1N1Y1N1Y1N1Y1N1Y1N1Y1N1Y",
    "1N1Y1N1Y1N1Y1N1Y1N1Y1N1Y1N1Y1N1Y1N1Y1N1Y1N1Y1N1Y1N1Y1N1Y1N1Y1N1Y1N1Y1N1Y8N1Y1N1Y4N1YcN12Y1N1",
    "Y5N1YnwzN1Y1N1Y1N1Y1N1Y1N1Y1N1Y1N1Y1N1Y1N1Y1N1Y1N1Y1N1Y1N1Y1N1Y1N1Y1N1Y1N1Y1N1Y1N1Y1N1Y1N1Y1",
    "N1Y1N1YjN1Y1N1Y1N1Y1N1Y1N1Y1N1Y1N1Y1N1Y1N1Y1N1Y1N1Y1N1Y1N1Y1N1Y3rN1Y1N1Y1N1Y1N1Y1N1Y1N1Y1N1Y",
    "3N1Y1N1Y1N1Y1N1Y1N1Y1N1Y1N1Y1N1Y1N1Y1N1Y1N1Y1N1Y1N1Y1N1Y1N1Y1N1Y1N1Y1N1Y1N1Y1N1Y1N1Y1N1Y1N1Y",
    "1N1Y1N1Y1N1Y1N1Y1N1Y1N1Y1N1Y1N1YaN1Y1N1Y2N1Y1N1Y1N1Y1N1Y1N1Y4N1Y4N1Y1N2Y2N1Y1N1Y1N1Y1N1Y1N1Y",
    "1N1Y1N1Y1N1Y1N1Y1N1YbN1Y1N1Y1N1Y1N1Y1N1Y1N1Y1N1Y1N1Y4N1Y1N1Y2N1Y3N1Y1N1Y1N1Y1N1Y1N1Y1N1YqN1Y",
    "nwN1YsN28YfnkN7YcN5YtlNqYy5N14Y3sN10Y4bNbY1NfY1N7Y1N2Y1dvN1fY3hNmY27uNwYgw0NwYo82NyY"]),
    (["changeswhenuppercased", "cwu"], [
    "2pNqY1mN1Y15NoY1N8Y1N1Y1N1Y1N1Y1N1Y1N1Y1N1Y1N1Y1N1Y1N1Y1N1Y1N1Y1N1Y1N1Y1N1Y1N1Y1N1Y1N1Y1N1Y1",
    "N1Y1N1Y1N1Y1N1Y1N1Y1N1Y1N1Y1N1Y1N1Y1N1Y2N1Y1N1Y1N1Y1N1Y1N1Y1N1Y1N1Y1N2Y1N1Y1N1Y1N1Y1N1Y1N1Y1",
    "N1Y1N1Y1N1Y1N1Y1N1Y1N1Y1N1Y1N1Y1N1Y1N1Y1N1Y1N1Y1N1Y1N1Y1N1Y1N1Y1N1Y1N1Y2N1Y1N1Y1N3Y2N1Y1N1Y2",
    "N1Y3N1Y5N1Y2N1Y3N3Y2N1Y2N1Y1N1Y1N1Y2N1Y4N1Y2N1Y3N1Y1N1Y2N1Y3N1Y1N1Y5N2Y1N2Y1N2Y1N1Y1N1Y1N1Y1",
    "N1Y1N1Y1N1Y1N1Y1N2Y1N1Y1N1Y1N1Y1N1Y1N1Y1N1Y1N1Y1N1Y1N2Y1N2Y1N1Y3N1Y1N1Y1N1Y1N1Y1N1Y1N1Y1N1Y1",
    "N1Y1N1Y1N1Y1N1Y1N1Y1N1Y1N1Y1N1Y1N1Y1N1Y1N1Y1N1Y1N1Y3N1Y1N1Y1N1Y1N1Y1N1Y1N1Y1N1Y1N1Y1N1Y8N1Y2",
    "N2Y1N1Y4N1Y1N1Y1N1Y1N1Y1N6Y1N2Y1N1Y1N2Y3N2Y1N4Y1N5Y2N1Y1N2Y2N1Y7N1Y2N1Y1N2Y3N6Y5N1YaN2Y4mN1Y",
    "17N1Y1N1Y3N1Y3N3YiN1YrNzY1N2Y3N3Y1N1Y1N1Y1N1Y1N1Y1N1Y1N1Y1N1Y1N1Y1N1Y1N1Y1N1Y1N5Y1N1Y2N1Y2N1",
    "Y1gN1cY1N1Y1N1Y1N1Y1N1Y1N1Y1N1Y1N1Y1N1Y1N1Y1N1Y1N1Y1N1Y1N1Y1N1Y1N1Y1N1Y1N1Y9N1Y1N1Y1N1Y1N1Y1",
    "N1Y1N1Y1N1Y1N1Y1N1Y1N1Y1N1Y1N1Y1N1Y1N1Y1N1Y1N1Y1N1Y1N1Y1N1Y1N1Y1N1Y1N1Y1N1Y1N1Y1N1Y1N1Y1N1Y2",
    "N1Y1N1Y1N1Y1N1Y1N1Y1N1Y1N2Y1N1Y1N1Y1N1Y1N1Y1N1Y1N1Y1N1Y1N1Y1N1Y1N1Y1N1Y1N1Y1N1Y1N1Y1N1Y1N1Y1",
    "N1Y1N1Y1N1Y1N1Y1N1Y1N1Y1N1Y1N1Y1N1Y1N1Y1N1Y1N1Y1N1Y1N1Y1N1Y1N1Y1N1Y1N1Y1N1Y1N1Y1N1Y1N1Y1N1Y1",
    "N1Y1N1Y1N1Y1N1Y1N1Y1N1Y1N1Y1N1Y1N1Y1dN13Y288N17Y2N3Yl4N6Y1oiN9Y1N1Y6mN1Y3N1YgN1Y36N1Y1N1Y1N1",
    "Y1N1Y1N1Y1N1Y1N1Y1N1Y1N1Y1N1Y1N1Y1N1Y1N1Y1N1Y1N1Y1N1Y1N1Y1N1Y1N1Y1N1Y1N1Y1N1Y1N1Y1N1Y1N1Y1N1",
    "Y1N1Y1N1Y1N1Y1N1Y1N1Y1N1Y1N1Y1N1Y1N1Y1N1Y1N1Y1N1Y1N1Y1N1Y1N1Y1N1Y1N1Y1N1Y1N1Y1N1Y1N1Y1N1Y1N1",
    "Y1N1Y1N1Y1N1Y1N1Y1N1Y1N1Y1N1Y1N1Y1N1Y1N1Y1N1Y1N1Y1N1Y1N1Y1N1Y1N1Y1N1Y1N1Y1N1Y1N1Y1N1Y1N1Y1N1",
    "Y1N1Y1N1Y1N7Y5N1Y1N1Y1N1Y1N1Y1N1Y1N1Y1N1Y1N1Y1N1Y1N1Y1N1Y1N1Y1N1Y1N1Y1N1Y1N1Y1N1Y1N1Y1N1Y1N1",
    "Y1N1Y1N1Y1N1Y1N1Y1N1Y1N1Y1N1Y1N1Y1N1Y1N1Y1N1Y1N1Y1N1Y1N1Y1N1Y1N1Y1N1Y1N1Y1N1Y1N1Y1N1Y1N1Y1N1",
    "Y1N1Y1N1Y1N1Y1N1Y1N9Y8N6YaN8Y8N8Y8N6YaN8Y8N8Y8NeY2N1hY1N2Y4N1Y1N1Y3N3Y1N2Y4N1Y3N4Y2N2Y8N8YaN",
    "3Y1N2Y4N1Y9dN1YxNgY4N1YnfNqY1fqN1cY1N1Y3N2Y1N1Y1N1Y1N1Y6N1Y2N1YaN1Y1N1Y1N1Y1N1Y1N1Y1N1Y1N1Y1",
    "N1Y1N1Y1N1Y1N1Y1N1Y1N1Y1N1Y1N1Y1N1Y1N1Y1N1Y1N1Y1N1Y1N1Y1N1Y1N1Y1N1Y1N1Y1N1Y1N1Y1N1Y1N1Y1N1Y1",
    "N1Y1N1Y1N1Y1N1Y1N1Y1N1Y1N1Y1N1Y1N1Y1N1Y1N1Y1N1Y1N1Y1N1Y1N1Y1N1Y1N1Y1N1Y1N1Y1N1Y8N1Y1N1Y4N1Yc",
    "N12Y1N1Y5N1YnwzN1Y1N1Y1N1Y1N1Y1N1Y1N1Y1N1Y1N1Y1N1Y1N1Y1N1Y1N1Y1N1Y1N1Y1N1Y1N1Y1N1Y1N1Y1N1Y1N",
    "1Y1N1Y1N1Y1N1YjN1Y1N1Y1N1Y1N1Y1N1Y1N1Y1N1Y1N1Y1N1Y1N1Y1N1Y1N1Y1N1Y1N1Y3rN1Y1N1Y1N1Y1N1Y1N1Y1",
    "N1Y1N1Y3N1Y1N1Y1N1Y1N1Y1N1Y1N1Y1N1Y1N1Y1N1Y1N1Y1N1Y1N1Y1N1Y1N1Y1N1Y1N1Y1N1Y1N1Y1N1Y1N1Y1N1Y1",
    "N1Y1N1Y1N1Y1N1Y1N1Y1N1Y1N1Y1N1Y1N1Y1N1YaN1Y1N1Y2N1Y1N1Y1N1Y1N1Y1N1Y4N1Y4N1Y1N2Y2N1Y1N1Y1N1Y1",
    "N1Y1N1Y1N1Y1N1Y1N1Y1N1Y1N1YbN1Y1N1Y1N1Y1N1Y1N1Y1N1Y1N1Y1N1Y4N1Y1N1Y2N1Y3N1Y1N1Y1N1Y1N1Y1N1Y1",
    "N1YqN1YnwN1YsN28YfnkN7YcN5YtlNqYy5N14Y3sN10Y4bNbY1NfY1N7Y1N2Y1dvN1fY3hNmY27uNwYgw0NwYo82NyY"]),
    (["dash"], [
    "19N1Y124N1Y1fN1Y2tdN1YslN1Y1l5N6Y1pN1Y13N1YfN1YauN1Y2dgN1Y2N1YvN2Y4N1YsN1YceN1YjN1Y33N1Y14ls",
    "N2Y11N1YaN1Y4pN1Y2u8N1Y8uN1Y"]),
    (["defaultignorablecodepoint", "di"], [
    "4tN1YipN1YjwN1Y282N2Y18zN2Y2dN5Y1krN5YqN5Y1dNgY3ckN1Y14ezNgY6nN1Y4gN1Y27N9Y119jN4Y43zN8Yh405",
    "N35sY"]),
    (["deprecated", "dep"], [
    "95N1Y10pN1Y1s3N1Y1N1Y1m1N2Y1qdN6YjdN2Yjh06N1Y"]),
    (["diacritic", "dia"], [
    "2mN1Y1N1Y1zN1Y6N1Y4N1Y2N2YdzN4fY1N8Y5N6YhN2Y4N1Y9N2Y71N5Y5tN1Y1jN19Y1N1Y1N2Y1N2Y1N1Y3nN8Y4N2",
    "Y3qN2Y4N2Y3N3Y1vNrY2jNbY1mNbYyN2Y3iN8Y15NaYgNsY1pN1YgN1Y3N4YsN1Y22N1YgN1Y32N1YgN1Y32N1YgN1Y1",
    "bN3Y1oN1YgN1Y7N1Y3bN1Y32N1YgN1Y32N1YgN1Y31N2YgN1Y3gN1Y33N1YcN6Y1N1Y2zN1YdN5Y23N2YrN1Y1N1Y1N1",
    "Y4N2Y1uN3Y1N2Y1qN1Y34N1Y1N2Y14N2Y4N5YpN7Y1N1YaN2YjlN3YqcN2YuN1Y44NbY9N1Y9nN3Y84N1YkN8Y2N1Y1c",
    "NfY2NbY2wN1YfN1Y12N9Y1iN2Y1mN1YbN2Y1uN2Y1sN6Y2aNpY4N1Y6N1Y2N3Y1eN1rY1cN10Y5NcY11NbYcdN1Y1N3Y",
    "bN3YdN3YdN3YdN2Y2k0N3Y8tN1Ye2N6Y2xN4Y2nN1Yn76N1YcN2Y1N1YsN2Y2aN2YeNyY2uN3Y31N2YcN1Y11N1Y47N1",
    "YrNiY1lN4Y10N1Y2nN1YcN1Y10N1Y45N3Y1tN4Y1fN1Y2sN5Y9N3Y3kN2Yfn4N1YldNgY7iN1Y1N1Y1bN1Y19N2Y1vN1",
    "Yl8N1YwvN6Y1N16Y1N9YhpN3Y4N1Y4lN2YfvN6Y12N1YqN5Yb3N3Y1yNbY1dN4Y5cN1Y15N1Y20N2Y3cN2Y1qN1Y24N1",
    "Y9N3Y2wN2Y4yN2Y28N2YgN1YoN7Y3N5Y2hN3Y1N2YdN2Y2nN1Y3N1Y3fN2Y6zN2Y3iN1Y3aN2Y37N1Y7hN2Y76N2Y4N1",
    "Y4cN1Y2bN1YiN1Y29N1YbpN1Y76N1Y1N2Y29N1YbtN2YnN1Y44sNfY8uxN1Y1xcN5Y1nN7YfoN2Yf6NhY28N2Ycn2N4Y",
    "1N7Y1N2Y64hN1aY2NnYf4N3Y3N6Y8N8Y2N7YuN4Y2v6N1qY5eN7YafN1Y1pN4YlaN2YkgN7Y31N3Y1N3Y"]),
    (["emoji"], [
    "zN1Y6N1Y5NaY33N1Y4N1Y68dN1YcN1Y60N1YmN1Y2iN6YfN2Ya7N2YcN1Y4mN1YpNbY4N3Y5jN1Y6fN2YaN1Y9N1Y1mN",
    "4Y1N5Y9N1Y2N1Y2N2Y2N1Y4N1Y2N1Y1N2Y2N1Y3N1Y3N2Y8N3Y5N1Y1N1Y5NcYbN2Y2N1Y1N2Y1N1YiN1Y2N2YiN6Y1N",
    "1Y1N2Y3N2Y5N1Y2N2Y4N2YbN2Y5N2Y2N1Y5N2Y1N1Y1N2YkN2Y5N6Y1N4Y2N1Y4N1Y2N1Y2N6Y1N1Y2N1Y1N1Y1N1Y6N",
    "1Y3N1Y6N1YaN2YfN1Y2N1Y4N1Y1N1Y4N3Y1N1YbN2Y1cN3Y9N1YeN1YeN1YacN2YcvN3YjN2Y1fN1Y4N1YyiN1YcN1Yg",
    "pN1Y1N1Y2fzeN1Y5mN1Y4gN2YcN2YeN1Y2NaY23NqY1N2YnN1YkN1Y2N9YlN2Y4uNyY2N34Y2N2Y1N3Y2N2bY2N3Y1N7",
    "bY1N1rYbN6Y1NoY7N2Y2N8YcN1Y2N4Y2N1Y4N2YdN2Y2N1Y8N2Y9N1Y5N3YcN3Y8N3Y2N1Y1N1Y4N1Y6N1Y3N1Y6N2eY",
    "1cN1yY5N8Y2N3Y4NaY3N1Y1N2Y3N1Y2NaY6bNcY4N1Y7vN1bY1NaY1N55Y34NdY3NaY5N1kY7NfY2NbY6N9Y"]),
    (["emojicomponent", "ecomp"], [
    "zN1Y6N1Y5NaY6abN1Y5xN1Y17orN1Y1c5yNqYe3N5Y14gN4Ygw30N2oY"]),
    (["emojimodifier", "emod"], [
    "2qrfN5Y"]),
    (["emojimodifierbase", "ebase"], [
    "7j1N1Y63N1YgN4Y2iyfN1Y1oN3Y2N1Y2N3Y39N2Y2NbYlNjY3N1Y4N3Y1N3Y7N1Y1N1YoN1Y5lN2Y4N1YlN1Y4N2Y4uN",
    "3Y3N5Y2bN1YgN3Y9N1YbN1YfzN1Y2N1Y8N8Y6N1Y9NaY2N3Y1kN1Y1pN2Y1N2Y1N1YhN3Y1NdY6dN3Y16N9Y"]),
    (["emojipresentation", "epres"], [
    "6xmN2Y5pN4Y3N1Y2N1YehN2YlN2Y1eNcY17N1YjN1YdN1Y8N2YhN2Y5N2Y8N1Y5N1YlN1Y7N2Y1N1Y4N1Y2N1Y7N1Y4N",
    "2YsN1YzN1Y1N1Y4N3Y1N1Y1pN3YoN1YeN1YnvN2Y1fN1Y4N1Y2hf2N1Y5mN1Y5aN1Y2NaY23NqY1N1YoN1YkN1Y2N5Y1",
    "N3YlN2Y4uNxYcN9Y1N1yY1NmYcN17Y4N5YcNhY3N1Y3N1zY1N1Y1N57Y2N1rYdN4Y1NoYiN1YqN2YdN1Y2eN2dY1cN1y",
    "Y6N1Y3N3Y2N3Y4N4YbN2Y7N9Y6bNcY4N1Y7vN1bY1NaY1N55Y34NdY3NaY5N1kY7NfY2NbY6N9Y"]),
    (["extendedpictographic", "extpict"], [
    "4pN1Y4N1Y68dN1YcN1Y60N1YmN1Y2iN6YfN2Ya7N2YcN1Y4mN1YpNbY4N3Y5jN1Y6fN2YaN1Y9N1Y1mN4Y1N5Y9N1Y2N",
    "1Y2N2Y2N1Y4N1Y2N1Y1N2Y2N1Y3N1Y3N2Y8N3Y5N1Y1N1Y5NcYbN2Y2N1Y1N2Y1N1YiN1Y2N2YiN6Y1N1Y1N2Y3N2Y5N",
    "1Y2N2Y4N2YbN2Y5N2Y2N1Y5N2Y1N1Y1N2YkN2Y5N6Y1N4Y2N1Y4N1Y2N1Y2N6Y1N1Y2N1Y1N1Y1N1Y6N1Y3N1Y6N1YaN",
    "2YfN1Y2N1Y4N1Y1N1Y4N3Y1N1YbN2Y1cN3Y9N1YeN1YeN1YacN2YcvN3YjN2Y1fN1Y4N1YyiN1YcN1YgpN1Y1N1Y2fze",
    "N1Y13N4Y2sNcYfN2YfN1YeN2Y11NaY34N2YcN2YeN1Y2NaYjN1kYrNfYaN1YkN1Y2N9Y1N4Y9NnY6N58Y2N34Y2N2Y1N",
    "3Y2N2bY2N3Y1N4Y5N72Y1N1rYbN6Y1NoY7N2Y2N8YcN1Y2N4Y2N1Y4N2YdN2Y2N1Y8N2Y9N1Y5N3YcN3Y8N3Y2N1Y1N1",
    "Y4N1Y6N1Y3N1Y6N2eY1cN1yY5N8Y2N3Y1NdY3N1Y1N6Y2NdY62N12YcN4Y1kN8YaN6Y14N8YuN2YcN4Y2NeY9N13YcN1",
    "bY1NaY1N55Y2gN8YeNsY1N3Y1N1lY1N4Y1NsY1N4Y1NgY74NseY"]),
    (["extender", "ext"], [
    "53N1YewN2YoeN1Yc9N1YhiN1Y3tN1Y2hN1YkwN1Y3jN1Y1tvN1Y1kN1YgzN1Yb2N1Y1wN1Y3uxN1Y17N5Y2vN2Y2lN3Y",
    "lxyN1Y16eN1YqqN1YmN1Y3tN1Y30N1YlN2YgorN1Y1lcN2Y157N1YrN1Y4N1YxzN1Y85N1Y38N2YduN3Yy7N1YfxlN2Y",
    "wsN2Y1N1Yme0N2YxdN1YnoN3Y"]),
    (["graphemebase", "grbase"], [
    "wN2nYxNdY1NgiY34N8Y2N6Y4N7Y1N1Y1NkY1N68Y7N4mY1N12Y2N1eY2N3Y1aN1Y1N1Y2N1Y2N1Y9NrY4N6YhNaYbN1Y",
    "1N1aYlNgY1N2tY8N1Y6N2Y2N1Y4NwY2N1Y1NuYtN2hYbN1YeN17Y9N7Y3NoY4N1Y9N1Y3N1Y7NfY1NpY5N1Y1NbY5NvY",
    "hN16Y1lN1jY1N1Y1N4Y8N4Y1N3Y7NaY2NtY1N2Y1N8Y2N2Y2NmY1N7Y1N1Y3N4Y3N1Y1N2Y6N2Y2N2Y1N1YdN2Y1N3Y4",
    "NoY5N1Y1N6Y4N2Y2NmY1N7Y1N2Y1N2Y1N2Y4N3YoN4Y1N1Y7NaY2N3Y1N1YcN1Y1N9Y1N3Y1NmY1N7Y1N2Y1N5Y3N4Y8",
    "N1Y1N2Y3N1YfN2Y4NcY7N1Y8N2Y1N8Y2N2Y2NmY1N7Y1N2Y1N5Y3N1Y2N1Y6N2Y2N2YfN2Y1N3Y4NiYbN1Y1N6Y3N3Y1",
    "N4Y3N2Y1N1Y1N2Y3N2Y3N3Y3NcY5N1Y1N2Y3N3Y1N3Y3N1YlNlY6N3Y1N8Y1N3Y1NnY1NgY3N1Y3N4YjN3Y2N1Y2N2Y4",
    "NaY7NaY1NbY1N3Y1NnY1NaY1N5Y3N2Y2N1Y1N2YoN2Y1N2Y4NaY1N3YeNbY1N3Y1N15Y2N1Y1N2Y5N3Y1N3Y1N2Y4N3Y",
    "1NaY4NqY2N2Y1NiY3NoY1N9Y1N1Y2N7Y9N2Y6N7Y7NaY2N3YcN1cY1N2YbN8Y8NdY11N2Y1N1Y1N5Y1NoY1N1Y1NaY1N",
    "2Y9N1Y2N5Y1N1Y9NaY2N4YwNoY2NrY1N1Y1N1Y1NeY1N10YiN1Y5N1Y2N5Y1dN8Y1N6Y1NdY11N19Y4N1Y6N1Y2N2Y2N",
    "pY2N4Y3NgY4NdY1N2Y2N6Y1NfY1N14Y1N1Y5N1Y2NahY1N4Y2N7Y1N1Y1N4Y2N15Y1N4Y2NxY1N4Y2N7Y1N1Y1N4Y2Nf",
    "Y1N1lY1N4Y2N1vY5NtY3NqY6N2eY2N6Y2NilY3N2hY7NiYdNjY3N2Y9NiYeNdY1N3YfN1gY2N1Y7N8Y1N2YbN9Y3NaY6",
    "NaY6NbY5NaY6N2hY7N5Y2NyY1N1Y5N1yYaNvY4N4Y2N3Y4N2Y1N6Y7N1Y3N16Y2N5YbN18Y4NqY6NbY3N1lY2N2Y3N1k",
    "Y1N1Y9N1Y1N2Y8N6YdNaY6NaY6NeY2eN1cYaN4Y3N8Y1NtY9NcY2NwY4N2Y6N1kY1N1Y2N3Y1N1YdN1cY8N2Y5NfY3N1",
    "qY5N17Y2NbYbN1YdN1Y7N4Y1N6Y1N3Y2N1Y5N5cY1sN7qY2N6Y2N12Y2N6Y2N8Y1N1Y1N1Y1N1Y1NvY2N1hY1NfY1NeY",
    "2N6Y1NjY2N3Y1N9Y1NbY5NoY7N1dYgN2Y2NrY1NdY3NxY1rN3wY4NiiYmNbYlN1ecY2NwY1N9kY3N2Y5N19Y1N1Y5N1Y",
    "2N1kY7N2YfNnY9N7Y1N7Y1N7Y1N7Y1N7Y1N7Y1N7Y1N7YxN2mYyNqY1N2hYcN5yYqN1mY6NgY1N2eY4N2tY5N17Y1N2m",
    "Y1N2eY9N1cY1NmlpY3N1jY9N9oYkN1bY4N1YaNwY2N28Y2N6Y8N5qY2N2Y1N1Y1N8YlNgY1N3Y1N4Y1NpY2N5Y4NaY6N",
    "1kY8N1wYaNcYoNdY1N12Y8NpYbN1YcNuY6N1cY1N2Y4N2Y2N2Y1NdY1NbY4N7Y1NpY1N15Y6N2Y2N2YbN3Y1N8Y1N1Y2",
    "NaY2NwY1N1fY1N1Y3N2Y2N5Y2N1Y1N1YoNhY2N8YbN6Y2N6Y2N6Y9N7Y1N7Y1N1oY4N39Y1N2Y1N4Y3NaY6N8mcYcNnY",
    "4N1dY6isNa6Y2N2yY12N7YcN5Y5N1Y1NoY1N5Y1N1Y1N2Y1N2Y1N3hYgNcdY2N1iY7N1YwNgYgNaYmNzY1NjY1N4Y4N5",
    "Y1N3rY4N4dY2NvY3N6Y2N6Y2N6Y2N3Y3N7Y1N7YdN2Y2NcY1NqY1NjY1N2Y1NfY2NeYyN3fY5N3Y4N19Y3N2gY1NdY3N",
    "1Y1bN19Y3nNtY3N1dYgNrY4N10Y9NuY5N12YaNuY1N11Y4NeY16N4eY2NaY6N10Y4N10Y4N14Y8N1gYbNcY1NfY1N7Y1",
    "N2Y1NbY1NfY1N7Y1N2Y3N1gYcN8nY9NmYaN8YoN6Y1N16Y1N9Y1xN6Y2N1Y1N18Y1N2Y3N1Y2NnY1N20Y8N9Y1cNjY1N",
    "2Y5NxY3NrY5N1Y1sN1kY4NkY2N1bYfN4Y1N3Y1NtYaN9Y7N9Y7N1sYwN11Y6NcY9N1iY3NtY2NrY5NqY7N4YcN7Y28N2",
    "1Y1jN1fYdN1fY7N16YcNaY6N12Y8NoY8N2Y5sNvY1N16Y3N1Y2N2YgN3Y1nN14Y8NmYbN9YmNiY4N4Y12NsYkNnY9N1Y",
    "1N1iYfN7Y4NuY1N2Y2N1YcN1dY4N2Y2N2Y1N4YeNpY7NaY9N10Y5N1Y9NiY8NzY1N3YbN1gY9N1Y1N8Y4N2Y1NgY1NkY",
    "bNiY1NsY3N2Y4N6Y1N2Y1rN7Y1N1Y1N4Y1NfY1NbY6N1bY1N3YdNaY8N2Y1N8Y2N2Y2NmY1N7Y1N2Y1N5Y3N1Y1N1Y1N",
    "4Y2N2Y2N2Y3N1YcN7YsNaY1N1Y2N1Y1N12Y1N1Y1N2YfN1Y1N2Y3N1Y1N3Y1N2Y13N1kY8N2Y3N1Y1NlY1N1Y1N3YuN1",
    "cY1N2Y6N1Y1N2Y1N1Y2N1Y2N4Y8NaY4mN1bY1N2Y6N4Y2N1Y2NrY10N1fY8N2Y1N1Y2N4YbNaY6NdYjN17Y1N1Y1N2Y8",
    "N2Y6NaY6NkYsNrY3N1Y1N2Y4N1Y9NnY55N1bY9N1Y2N1Y2sN2bYcN8Y2N1Y2N8Y1N2Y1NoY1N5Y1N2Y6N4Y1N3Y9NaY1",
    "yN8Y2N16Y8N4Y1N4YrN1YaN14Y6N2Y4N8Y9N1Y6N2Y3N1aYdN1Y2N9YdN21Y7NaY52NyYeNaY6N9Y1N12YeN1Y1N6YaN",
    "tY3NwYpN1Y7N1Y2N1Y23N7Y1N2Y1N12YlN1Y9NaY6N6Y1N2Y1N11Y4N2Y1N1Y1N1Y7NaY8mNjY2N4Y9NfY1N10Y8N2Y3",
    "NnY2eN1YfN1eYdNpnY2uN33Y1N5YbN5gY218N2rYdNtsYhN6YpN32zY5Ng7Y5a1NuYcN3Y3NaY1c6NftY7NvY1NaY4N2",
    "9Y1NaY6NuY7N1YaN1cY7NfYaNaY1N7Y1NlY5NjYc0N1mY5iN2jY2tN23Y5N1kYbNdY1sN4YsN4qgY8NyeY15NaY6w7N4",
    "Y1N7Y1N2Y1N83YfN1YtN3Y2N1YeN4Y8Nb0Y1s4N2zY5NdY3N9Y7NaY2N1Y2N1Y31cN6yY6Nc4Y4cN38Y1oN6uYaN13Y2",
    "N1oY5N3YmN2Y7NuY4N1pYlN1uY3N1Y3eNkYcNkYcN2fY9NpY3rN2dY1N1zY1N2Y2N1Y2N2Y2N4Y1NcY1N1Y1N7Y1N1tY",
    "1N4Y2N8Y1N7Y1NsY1N4Y1N5Y1N1Y3N7Y1N9gY2N84Y2NfmY1jN4Y1eN8Y1NeY1N7YvoNvY6N6Y79N1qY42N19YaN7Y2N",
    "aY4N2Y8wNuYiN18Y4NaY5N1YcwNsY4NaY5yNuY2NbY4N1YdcN7Y1N4Y1N2Y1NfY1N5hY2N9Y1cN1wY7N1Y4NaY4N2Ylt",
    "N1wY24N1pY5eN4Y1NrY1N2Y1N1Y2N1Y1NaY1N4Y1N1Y1N1Y6N1Y4N1Y1N1Y1N1Y1N3Y1N2Y1N1Y2N1Y1N1Y1N1Y1N1Y1",
    "N1Y1N2Y1N1Y2N4Y1N7Y1N4Y1N4Y1N1Y1NaY1NhY5N3Y1N5Y1NhY1gN2Y7iN18Y4N2sYcNfY2NfY1NfY1N11YaN4uY1kN",
    "tYdN18Y4N9Y7N2YeN6Y4aNrcY4NhY3NdY3N3bY4N2nY6NcY4N1YfNcY4N1kY8NaY6N14Y8NuY2NcY4N2Y1qN9gYcNeY2",
    "NdY3NaY5N1kY7NfY2NbY6N9Y7N43Y1N2uYsmNwyoYwN37eY6N66Y2N4g2YeN5rlYfNhaY1wiNf2Y15uN3t7Y5N38gY"]),
    (["graphemeextend", "grext"], [
    "lcN34Y7nN7Y7bN19Y1N1Y1N2Y1N2Y1N1Y20NbY1cNlYgN1Y2tN7Y2N6Y2N2Y1N4YzN1YuNrY2jNbY1mN9Y9N1YoN4Y1N",
    "9Y1N3Y1N5Y17N3Y1nN9Y16NoY1NwY1jN1Y1N1Y4N8Y4N1Y3N7YaN2YtN1Y1mN1Y1N1Y2N4Y8N1Y9N1YaN2YqN1Y2N2Y1",
    "lN1Y4N2Y4N2Y2N3Y3N1YuN2Y3N1YbN2Y1lN1Y4N5Y1N2Y4N1YkN2YmN6Y1N1Y1mN1Y1N2Y1N4Y8N1Y7N3YaN2YuN1Y1n",
    "N1Y1N1YcN1Y9N1Y14N1Y3N1Y1jN1Y1N3Y5N3Y1N4Y7N2YbN2YtN1Y1mN1Y2N2Y1N1Y3N3Y1N4Y7N2YbN2YsN2Y1lN2Y1",
    "N1Y2N4Y8N1Y9N1YaN2YtN1Y20N1Y4N1Y2N3Y1N1Y8N1Y29N1Y2N7YcN8Y2qN1Y2N9YbN7Y21N2YrN1Y1N1Y1N1Y1jNeY",
    "1N5Y1N2Y5NbY1N10Y9N1Y2uN4Y1N6Y1N2Y2N2YpN2Y4N3YgN4YdN1Y2N2Y6N1YfN1YjjN3YqaN4YsN3YtN2YuN2Y1sN2",
    "Y1N7Y8N1Y2NbY9N1Y19N3Y1N1Y39N2YyN1Y3aN3Y4N2Y9N1Y6N3Y63N2Y2N1Y1mN1Y1N7Y1N1Y1N1Y2N8Y6NaY2N1Y1c",
    "NvY1dN4Y1cNaY4N3Y12N9YcN2YwN4Y2N6Y1kN1Y1N2Y3N1Y1N5Y1kN8Y2N2Y48N3Y1NdY1N7Y4N1Y6N1Y3N2Y5iN1sYe",
    "kN1Y5fNxY2daN3Y3xN1Y2oNwYfeN6Y2xN2Yn9wN4Y1NaYwN2Y28N2Y7kN1Y3N1Y4N1YpN2Y5N1Y47N2YqNiYdN1Y12N8",
    "YpNbY1N1Y18N3Y1cN1Y2N4Y2N2Y2N1Y10N1Y1vN6Y2N2Y2N2YcN1Y8N1Y1bN1Y1fN1Y1N3Y2N2Y5N2Y1N1Y16N2Y8N1Y",
    "6mN1Y2N1Y4N1Yfn4N1YkhNgYgNgYa6N2YgtN1Y6aN1Y45N5Y1aeN3Y1N2Y5N4Y14N3Y4N1Y4lN2YfxN4Y1tN5Y8tN2Y2",
    "7N4Y1yNbY1dN4Y3fN1Y1iNfY15N1Y2N2YaN3Y1dN4Y2N2Y7N1Y1pN3Y10N5Y1N8Y1qN1YcN2Y1gN9Y1N1Y8N4Y2N1Y2n",
    "N3Y2N4Y6N1Y2N1Y4dN1Y3N8YlN2Y1lN2Y1N1Y1N1YcN1Y9N1YeN7Y3N5Y1vN1Y2N6Y1N1Y2N1Y1N3Y4N3Y1N1YeN2Y2d",
    "N8Y2N3Y1N1YnN1Y29N1Y2N6Y1N1Y2N1Y1N2Y1N2Y6jN1Y2N4Y6N2Y1N2YrN2Y2dN8Y2N1Y1N2Y2yN1Y1N1Y2N8Y2tN1Y",
    "1N1Y2N4Y1N5Y77N9Y1N2Y6tN1YaN4Y4N1Y40N4Y2N2Y4N1YwNaY14N6Y2N4Y8N1Y9N6Y2N3Y1aNdY1N2YbaN7Y1N6Y1N",
    "1Y2aNmY2N7Y1N2Y1N2Y3eN6Y3N1Y1N2Y1N7Y1N1Y20N2Y3N1Y1N1Y9nN2YbN2Y1gN5Y5N3YnN1Y44lN1Y6NfY8ugNcY3",
    "N3Y1xcN5Y1nN7Yt4N1Y1rN4Y29N1YbN2Yf57N2Y3mpN1aY2NnYf2N5Y3N6Y8N8Y2N7YuN4Y44N3Y1izN1jY4N1eY8N1Y",
    "eN1YmN5Y1NfY11sN7Y1NhY2N7Y1N2Y1N5Y2sN1Y4gN7YafN1Y1pN4Ye4N4Y72N2YkgN7Y31N7YgzbpN2oY3kN6oY"]),
    (["graphemelink", "grlink"], [
    "1u5N1Y3jN1Y3jN1Y3jN1Y3jN1Y3jN1Y3jN1Y3jN1Y31N2YgN1Y3gN1Y33N1Y3jN1Y5lN1Y50N2Y1cpN2YuN1Y4dN1Yi5N1",
    "Y6bN1Y2tN2Y1yN2Y3grN1Yo7aN1Y11N1Y47N1Y3yN1Y30N1Y8lN1Y6uN1YimpN1Y16uN1Y15N1YeN1Y1lN1Y3dN2Y3vN1Y",
    "38N1Y50N1Y2qN1Y3kN1Y1N1Y35N1Y3jN1Y70N1Y3jN1Y3aN1Y38N1Y7hN1Y77N2Y4hN1Y2bN1YiN1Y29N1YbpN1Y78N2Y2",
    "9N1YbtN2Yd0sN1Y"]),
    (["hexdigit", "hex"], [
    "1cNaY7N6YqN6Y1eaxNaY7N6YqN6Y"]),
    (["idsbinaryoperator", "idsb"], [
    "9gwN2Y2NaYdtN1Y"]),
    (["idstrinaryoperator", "idst"], [
    "9gyN2Y"]),
    (["idcontinue", "idc"], [
    "1cNaY7NqY4N1Y1NqY1bN1YaN1Y1N1Y2N1Y5NnY1NvY1NcqY4NcYeN5Y7N1Y1N1YhN39Y1N2Y2N4Y1N1Y6N5Y1N1Y1NkY",
    "1N2bY1N3vY1N5Y2N4mY1N12Y2N1Y6N15Y8N19Y1N1Y1N2Y1N2Y1N1Y8NrY4N4YtNbY5N22Y4N2uY1N8Y2NaY1NjY2N1Y",
    "gN1nY2N2tYeN1iY4N1Y2N1Y2N1aYiNsY4NbY5NoY1N6Y8N23Y1N3lY2NaY1NjY1N8Y2N2Y2NmY1N7Y1N1Y3N4Y2N9Y2N",
    "2Y2N4Y8N1Y4N2Y1N5Y2NcYaN1Y1N1Y2N3Y1N6Y4N2Y2NmY1N7Y1N2Y1N2Y1N2Y2N1Y1N5Y4N2Y2N3Y3N1Y7N4Y1N1Y7N",
    "gYbN3Y1N9Y1N3Y1NmY1N7Y1N2Y1N5Y2NaY1N3Y1N3Y2N1YfN4Y2NaY9N7Y1N3Y1N8Y2N2Y2NmY1N7Y1N2Y1N5Y2N9Y2N",
    "2Y2N3Y7N3Y4N2Y1N5Y2NaY1N1YgN2Y1N6Y3N3Y1N4Y3N2Y1N1Y1N2Y3N2Y3N3Y3NcY4N5Y3N3Y1N4Y2N1Y6N1YeNaYgN",
    "dY1N3Y1NnY1NgY2N9Y1N3Y1N4Y7N2Y1N3Y2N1Y2N4Y2NaYgN4Y1N8Y1N3Y1NnY1NaY1N5Y2N9Y1N3Y1N4Y7N2Y6N2Y1N",
    "4Y2NaY1N3YcNdY1N3Y1N1fY1N3Y1N5Y5N4Y7N5Y2NaYaN6Y1N3Y1NiY3NoY1N9Y1N1Y2N7Y3N1Y4N6Y1N1Y1N8Y6NaY2",
    "N2YdN1mY5NfY1NaY13N2Y1N1Y1N5Y1NoY1N1Y1NnY2N5Y1N1Y1N7Y1NaY2N4YwN1YnN2Y6NaYbN1Y1N1Y1N1Y4NaY1N1",
    "0Y4NkY1NiY1N10Y9N1Y1lN22Y6N26Y2N12Y1N1Y5N1Y2N17Y1N99Y1N4Y2N7Y1N1Y1N4Y2N15Y1N4Y2NxY1N4Y2N7Y1N",
    "1Y1N4Y2NfY1N1lY1N4Y2N1vY2N3Y9N9YeNgYgN2eY2N6Y3Nh8Y2NhY1NqY5N23Y3NbY7NmY9NmYbNkYcNdY1N3Y1N2Yc",
    "N2cY3N1Y4N2Y2NaYxN3Y1NbY6N2hY7N17Y5N1yYaNvY1NcY4NcYaN14Y2N5YbN18Y4NqY6NbY11NsY4N1rY1NtY2NbY6",
    "NaYdN1Y8NeY1NgY1dN25Y3NaYhN9YcN38YcN1kY8NaY3N1dY2NbY5N17Y2N3YgN3Y1N13Y5NeuY2N6Y2N12Y2N6Y2N8Y",
    "1N1Y1N1Y1N1Y1NvY2N1hY1N7Y1N1Y3N3Y1N7Y3N4Y2N6Y4NdY5N3Y1N7YfN2Y1dN2YjN1YsN1YdN1YgNdY1fNdY4N1Y3",
    "NcYhN1Y4N1Y2NaY1N1Y2N6Y6N1Y1N1Y1N1Y1NgY2N4Y5N5Y4N1YhN15Y22fN6dY6N9YcN12Y1N1Y5N1Y2N1kY7N1YfNo",
    "Y9N7Y1N7Y1N7Y1N7Y1N7Y1N7Y1N7Y1N7Y1NwYedN3YpNfY1N5Y2N5Y4N2eY2N7Y1N2nY5N17Y1N2mYhNwY1cNgYe8N53",
    "4Y1sNh3hY1vN1aY2N7hY3NsYkN1cY4NaY1N37Y11N9Y2N2vY2N1vY2N2Y1N1Y1N8YlN1iY4N1YjN1gYcN1yYaNaY6NoY",
    "3N1Y1N1dY2N10YcNtY3N1tYeNbY6NvY1N1jY9NeY2NaY6NnY3N21YoN3Y2NgY2N5YaN6Y2N6Y2N6Y9N7Y1N7Y1N17Y1N",
    "eY6N3fY1N2Y2NaY6N8mcYcNnY4N1dY6isNa6Y2N2yY12N7YcN5Y5NcY1NdY1N5Y1N1Y1N2Y1N2Y1N30YxNa3YiN1sY2N",
    "1iY14NcY4NgYgNgY3N2YoN3YwN5Y1N3rYjNaY7NqY4N1Y1NqYaN2iY3N6Y2N6Y2N6Y2N3YzNcY1NqY1NjY1N2Y1NfY2N",
    "eYyN3fY1xN1hY3sN1Y3mNtY3N1dYfN1YvNwYdNuY5N17Y5NuY2N10Y4N8Y1N5Y16N4eY2NaY6N10Y4N10Y4N14Y8N1gY",
    "cNbY1NfY1N7Y1N2Y1NbY1NfY1N7Y1N2Y3N1gYcN8nY9NmYaN8YoN6Y1N16Y1N9Y1xN6Y2N1Y1N18Y1N2Y3N1Y2NnYaNn",
    "Y9NvY1tNjY1N2YaNmYaNqY1yN1kY6N2Y1sN4Y1N2Y5N8Y1N3Y1NtY2N3Y4N1YwNtY3NtYzN8Y1NuYpN1iYaNmYaNjYdN",
    "iY32N21Y1jN1fYdN1fYdN14Y8NaY6N12Y3N5Y1NnY6yN16Y1N2Y3N2YgN3Y1jNxYaN1Y8NxYvNmY16NlYrNnY9N1zYvN",
    "gY9N1oY7N1YdNpY7NaY6N1hY1NaY4N4Y8N10Y2N1Y9N1xY4N4Y1NdY1N1YzNiY1N11Y6N4Y1qN7Y1N1Y1N4Y1NfY1NaY",
    "7N1nY5NaY6N4Y1N8Y2N2Y2NmY1N7Y1N2Y1N5Y1NaY2N2Y2N3Y2N1Y6N1Y5N7Y2N7Y3N5YbNaY1N1Y2N1Y1N12Y1NaY1N",
    "1Y2N1Y1N4Y1N8YdN2YtN23Y5NaY4N4YuN1yY1N1Y8NaY4mN1iY2N9YnN6YyN1tY3N1YbNaY12N1lY7NaY6NkYsNrY2Nf",
    "Y4NaY6N7Y55N1nY2tN22YlN8Y2N1Y2N8Y1N2Y1NuY1N2Y2N9YcNaY1yN8Y2N1aY2N8Y1N2YrN1rY8N1Y8N22Y3N1YiN2",
    "1Y5jNxYfNaY6N9Y1N19Y1N9YfNaYoNuY2NmY1NeY21N7Y1N2Y1N18Y3N1Y1N2Y1N9Y8NaY6N6Y1N2Y1N11Y1N2Y1N6Y7",
    "NaY8mNnY9NhY1N15Y3N5YdNbY2dN1Y27NpmY2uN33YhN5gY218N2pYfNtsYgNmYaN32zY5Ng7Y5a1N1mY1c6NftY7NvY",
    "1NaY6N27Y1NaY6NuY2N5YbN1jY9N4YcNaY9NlY5NjYc0N19Y3NaY5iN1sY3kN23Y4N1lY7NhY1sN2Y1N2YbN2YeN4qgY",
    "8NyeY15NaY6w7N4Y1N7Y1N2Y1N83YfN1YtN3Y2N1YeN4Y8Nb0Y1s4N2zY5NdY3N9Y7NaY3N2Y381NaYeeN1aY2NnYf2N",
    "5Y3N6Y8N8Y2N7YuN4Y44N3YcbN2dY1N1zY1N2Y2N1Y2N2Y2N4Y1NcY1N1Y1N7Y1N1tY1N4Y2N8Y1N7Y1NsY1N4Y1N5Y1",
    "N1Y3N7Y1N9gY2NpY1NpY1NvY1NpY1NvY1NpY1NvY1NpY1NvY1NpY1N8Y2N1eYe8N1jY4N1eY8N1YeN1YmN5Y1NfYuoNv",
    "Y6N6Y5xN7Y1NhY2N7Y1N2Y1N5Y5N1qYxN1Y34N19Y3NeY2NaY4N1Y8xNvYhN1mYd2N16Y5yN17YdhN7Y1N4Y1N2Y1NfY",
    "1N5hYbN7Y15N24Y4NaYx2N4Y1NrY1N2Y1N1Y2N1Y1NaY1N4Y1N1Y1N1Y6N1Y4N1Y1N1Y1N1Y1N3Y1N2Y1N1Y2N1Y1N1Y",
    "1N1Y1N1Y1N1Y1N2Y1N1Y2N4Y1N7Y1N4Y1N4Y1N1Y1NaY1NhY5N3Y1N5Y1NhY2lwNaYsmNwyoYwN37eY6N66Y2N4g2YeN",
    "5rlYfNhaY1wiNf2Y15uN3t7Y5N38gYf9e8N6oY"]),
    (["idstart", "ids"], [
    "1tNqY6NqY1bN1YaN1Y4N1Y5NnY1NvY1NcqY4NcYeN5Y7N1Y1N1Y3lN5Y1N2Y2N4Y1N1Y6N1Y1N3Y1N1Y1NkY1N2bY1N3",
    "vY8N4mY1N12Y2N1Y6N15Y1zNrY4N4Y19N17YzN2Y1N2rY1N1YfN2Y7N2YaN3Y2N1YgN1Y1NuYtN2hYbN1YoNxY9N2Y4N",
    "1Y5NmY4N1Y9N1Y3N1YnNpY7NbY5NoY1N6YhN16Y1mN1iY3N1YiN1Y7NaYfNgY4N8Y2N2Y2NmY1N7Y1N1Y3N4Y3N1YgN1",
    "YdN2Y1N3YeN2YaN1Y8N6Y4N2Y2NmY1N7Y1N2Y1N2Y1N2YvN4Y1N1YjN3YgN9Y1N3Y1NmY1N7Y1N2Y1N5Y3N1YiN1YfN2",
    "YnN1YbN8Y2N2Y2NmY1N7Y1N2Y1N5Y3N1YuN2Y1N3YfN1YhN1Y1N6Y3N3Y1N4Y3N2Y1N1Y1N2Y3N2Y3N3Y3NcYmN1Y1gN",
    "8Y1N3Y1NnY1NgY3N1YqN3Y2N1Y2N2YuN1Y4N8Y1N3Y1NnY1NaY1N5Y3N1YvN2Y1N2YfN2YhN9Y1N3Y1N15Y2N1YgN1Y5",
    "N3Y8N3YoN6Y5NiY3NoY1N9Y1N1Y2N7Y1mN1cY1N2YcN7Y1mN2Y1N1Y1N5Y1NoY1N1Y1NaY1N2Y9N1Y2N5Y1N1YlN4YwN",
    "1Y1rN8Y1N10YrN5Y37N17YkN1YgN6Y4N4Y3N1Y3N2Y7N3Y4NdYcN1YhN12Y1N1Y5N1Y2N17Y1N99Y1N4Y2N7Y1N1Y1N4",
    "Y2N15Y1N4Y2NxY1N4Y2N7Y1N1Y1N4Y2NfY1N1lY1N4Y2N1vY11NgYgN2eY2N6Y3Nh8Y2NhY1NqY5N23Y3NbY7NiYdNjY",
    "eNiYeNdY1N3YfN1gYzN1Y4N1Y1vN2hY7N15Y1N1Y5N1yYaNvY1dNuY2N5YbN18Y4NqY1iNnY9N1hY2aN1Y2lN1bYhN8Y",
    "1iNuYdN2YaN18YqN10Y15N3YaN10Y2NbY5N17Y2N3Y15N4Y1N6Y1N2Y3N1Y5N5cY1sN7qY2N6Y2N12Y2N6Y2N8Y1N1Y1",
    "N1Y1N1Y1NvY2N1hY1N7Y1N1Y3N3Y1N7Y3N4Y2N6Y4NdY5N3Y1N7Y38N1YdN1YgNdY2tN1Y4N1Y2NaY1N1Y2N6Y6N1Y1N",
    "1Y1N1Y1NgY2N4Y5N5Y4N1YhN15Y22fN6dY6N4Y3N2YcN12Y1N1Y5N1Y2N1kY7N1YgNnY9N7Y1N7Y1N7Y1N7Y1N7Y1N7Y",
    "1N7Y1N7YfaN3YpN9Y7N5Y2N5Y4N2eY4N5Y1N2iY1N4Y5N17Y1N2mYhNwY1cNgYe8N534Y1sNh3hY1vN1aY2N7hY3NgYa",
    "N2YkN1bYgNvY2N28Y13N9Y2N2vY2N1vY2N2Y1N1Y1N8YlNgY1N3Y1N4Y1NnYtN1gYeN1eY1qN6Y3N1Y1N2YbNsYaNnYp",
    "NtY7N1bYsN1YgN5Y1NaYaN5Y1N15YnN3Y1N8YkNnY3N1Y3N1eY1N1Y3N2Y2N5Y2N1Y1N1YoN3Y2NbY7N3YcN6Y2N6Y2N",
    "6Y9N7Y1N7Y1N17Y1NeY6N37YtN8mcYcNnY4N1dY6isNa6Y2N2yY12N7YcN5Y5N1Y1NaY1NdY1N5Y1N1Y1N2Y1N2Y1N30",
    "YxNa3YiN1sY2N1iY14NcY38N5Y1N3rY10NqY6NqYbN2hY3N6Y2N6Y2N6Y2N3YzNcY1NqY1NjY1N2Y1NfY2NeYyN3fY1x",
    "N1hY7fNtY3N1dY1bNwYdNuY5N12YaNuY2N10Y4N8Y1N5Y16N4eYiN10Y4N10Y4N14Y8N1gYcNbY1NfY1N7Y1N2Y1NbY1",
    "NfY1N7Y1N2Y3N1gYcN8nY9NmYaN8YoN6Y1N16Y1N9Y1xN6Y2N1Y1N18Y1N2Y3N1Y2NnYaNnY9NvY1tNjY1N2YaNmYaNq",
    "Y1yN1kY6N2Y1sN1YfN4Y1N3Y1NtY16NtY3NtYzN8Y1NsYrN1iYaNmYaNjYdNiY32N21Y1jN1fYdN1fYdN10Y12NsY9Nn",
    "Y6yN16Y6N2YgN3Y1nNtYaN1Y8NmY16NiY1aNlYrNnYcN1hY1lN2Y2N1YdN19YwNpYqN10YtN1Y2N1Y8NzY3N1YcN1cYe",
    "N4YlN1Y1N1YzNiY1NpYjN2Y1rN7Y1N1Y1N4Y1NfY1NaY7N1bY12N8Y2N2Y2NmY1N7Y1N2Y1N5Y3N1YiN1YcN5YuNaY1N",
    "1Y2N1Y1N12Y1N1YpN1Y1N1Y18N1hYiN4YkN3YuN1cYkN2Y1N1Y54N1bY15N4Y10N1cYkN1Y1nN17YdN1Y1zNrY11N7Y5",
    "5N18Y38N1sYvN8Y2N1Y2N8Y1N2Y1NoYfN1Y1N1Y2mN8Y2N13YgN1Y1N1YsN1YaN14Y7N1YlN1YbN1aYjN1YiN21Y5jNx",
    "YvN9Y1N11YhN1Y1dNuY34N7Y1N2Y1N12YlN1YpN6Y1N2Y1NwYeN1Y93NjYfN1Y1NdY1NyY3gN1Y27NpmY2uN33YhN5gY",
    "218N2pYfNtsYhN6YpN32zY5Ng7Y5a1NuY1cyNftY7NvYhN27YhNuYiN1cYgN4YvNlY5NjYc0N19Y5vN1sY3kN23Y5N1Y",
    "1uNdY1sN2Y1N1YsN4qgY8NyeY15NaY6w7N4Y1N7Y1N2Y1N83YfN1YtN3Y2N1YeN4Y8Nb0Y1s4N2zY5NdY3N9Y7NaY4me",
    "N2dY1N1zY1N2Y2N1Y2N2Y2N4Y1NcY1N1Y1N7Y1N1tY1N4Y2N8Y1N7Y1NsY1N4Y1N5Y1N1Y3N7Y1N9gY2NpY1NpY1NvY1",
    "NpY1NvY1NpY1NvY1NpY1NvY1NpY1N8Y1f8NvY6N6Y79N1qY42N19YaN7YgN1Y8xNuYiN18YdgNsY6cNuY2N1YdrN7Y1N",
    "4Y1N2Y1NfY1N5hY1nN1wY7N1YxgN4Y1NrY1N2Y1N1Y2N1Y1NaY1N4Y1N1Y1N1Y6N1Y4N1Y1N1Y1N1Y1N3Y1N2Y1N1Y2N",
    "1Y1N1Y1N1Y1N1Y1N1Y1N2Y1N1Y2N4Y1N7Y1N4Y1N4Y1N1Y1NaY1NhY5N3Y1N5Y1NhY3esNwyoYwN37eY6N66Y2N4g2Ye",
    "N5rlYfNhaY1wiNf2Y15uN3t7Y5N38gY"]),
    (["hyphen"], [
    "19N1Y3jN1YykN1Y3nfN1Y1l5N2Y2rpN1YkjN1Y14knN1Y4pN1Y2fN1Y"]),
    (["ideographic", "ideo"], [
    "9hiN2YpN9YeN3YqtN534Y1sNg74YhkwNa6Y2N2yYn4aN1YrN4qgY8NyeY15NaY76vNb0Yf7oNwyoYwN37eY6N66Y2N4g",
    "2YeN5rlYfNhaY1wiNf2Y15uN3t7Y5N38gY"]),
    (["joincontrol", "joinc"], [
    "6bwN2Y"]),
    (["logicalorderexception", "loe"], [
    "2tcN5Y3fN5Y25sN3Y2N1YsmyN2Y2N1Y1N2Y"]),
    (["lowercase", "lower"], [
    "2pNqY1bN1YaN1Y4N1Y10NoY1N8Y1N1Y1N1Y1N1Y1N1Y1N1Y1N1Y1N1Y1N1Y1N1Y1N1Y1N1Y1N1Y1N1Y1N1Y1N1Y1N1Y1",
    "N1Y1N1Y1N1Y1N1Y1N1Y1N1Y1N1Y1N1Y1N1Y1N1Y1N1Y1N2Y1N1Y1N1Y1N1Y1N1Y1N1Y1N1Y1N1Y1N2Y1N1Y1N1Y1N1Y1",
    "N1Y1N1Y1N1Y1N1Y1N1Y1N1Y1N1Y1N1Y1N1Y1N1Y1N1Y1N1Y1N1Y1N1Y1N1Y1N1Y1N1Y1N1Y1N1Y1N1Y2N1Y1N1Y1N3Y2",
    "N1Y1N1Y2N1Y3N2Y4N1Y2N1Y3N3Y2N1Y2N1Y1N1Y1N1Y2N1Y1N2Y1N1Y2N1Y3N1Y1N1Y2N2Y2N3Y6N1Y2N1Y2N1Y1N1Y1",
    "N1Y1N1Y1N1Y1N1Y1N1Y1N1Y1N2Y1N1Y1N1Y1N1Y1N1Y1N1Y1N1Y1N1Y1N1Y1N2Y2N1Y1N1Y3N1Y1N1Y1N1Y1N1Y1N1Y1",
    "N1Y1N1Y1N1Y1N1Y1N1Y1N1Y1N1Y1N1Y1N1Y1N1Y1N1Y1N1Y1N1Y1N1Y1N1Y1N1Y1N1Y1N1Y1N1Y1N1Y1N1Y1N1Y1N1Y1",
    "N1Y1N7Y2N1Y2N2Y1N1Y4N1Y1N1Y1N1Y1N1Y1N1xY2NzY7N2YuN5Y2oN1Y17N1Y1N1Y3N1Y2N4YiN1YrNzY1N2Y3N3Y1N",
    "1Y1N1Y1N1Y1N1Y1N1Y1N1Y1N1Y1N1Y1N1Y1N1Y1N1Y1N5Y1N1Y2N1Y2N2Y1fN1cY1N1Y1N1Y1N1Y1N1Y1N1Y1N1Y1N1Y",
    "1N1Y1N1Y1N1Y1N1Y1N1Y1N1Y1N1Y1N1Y1N1Y1N1Y9N1Y1N1Y1N1Y1N1Y1N1Y1N1Y1N1Y1N1Y1N1Y1N1Y1N1Y1N1Y1N1Y",
    "1N1Y1N1Y1N1Y1N1Y1N1Y1N1Y1N1Y1N1Y1N1Y1N1Y1N1Y1N1Y1N1Y1N1Y2N1Y1N1Y1N1Y1N1Y1N1Y1N1Y1N2Y1N1Y1N1Y",
    "1N1Y1N1Y1N1Y1N1Y1N1Y1N1Y1N1Y1N1Y1N1Y1N1Y1N1Y1N1Y1N1Y1N1Y1N1Y1N1Y1N1Y1N1Y1N1Y1N1Y1N1Y1N1Y1N1Y",
    "1N1Y1N1Y1N1Y1N1Y1N1Y1N1Y1N1Y1N1Y1N1Y1N1Y1N1Y1N1Y1N1Y1N1Y1N1Y1N1Y1N1Y1N1Y1N1Y1N1Y1N1Y1N1Y1N1Y",
    "1cN15Y287N17Y1N4Yl4N6Y1oiN9Y1N1Y39N5cY1tN1Y1N1Y1N1Y1N1Y1N1Y1N1Y1N1Y1N1Y1N1Y1N1Y1N1Y1N1Y1N1Y1",
    "N1Y1N1Y1N1Y1N1Y1N1Y1N1Y1N1Y1N1Y1N1Y1N1Y1N1Y1N1Y1N1Y1N1Y1N1Y1N1Y1N1Y1N1Y1N1Y1N1Y1N1Y1N1Y1N1Y1",
    "N1Y1N1Y1N1Y1N1Y1N1Y1N1Y1N1Y1N1Y1N1Y1N1Y1N1Y1N1Y1N1Y1N1Y1N1Y1N1Y1N1Y1N1Y1N1Y1N1Y1N1Y1N1Y1N1Y1",
    "N1Y1N1Y1N1Y1N1Y1N1Y1N1Y1N1Y1N1Y1N1Y1N1Y1N1Y1N1Y1N1Y1N1Y1N1Y1N9Y1N1Y1N1Y1N1Y1N1Y1N1Y1N1Y1N1Y1",
    "N1Y1N1Y1N1Y1N1Y1N1Y1N1Y1N1Y1N1Y1N1Y1N1Y1N1Y1N1Y1N1Y1N1Y1N1Y1N1Y1N1Y1N1Y1N1Y1N1Y1N1Y1N1Y1N1Y1",
    "N1Y1N1Y1N1Y1N1Y1N1Y1N1Y1N1Y1N1Y1N1Y1N1Y1N1Y1N1Y1N1Y1N1Y1N1Y1N1Y1N1Y1N1Y1N9Y8N6YaN8Y8N8Y8N6Ya",
    "N8Y8N8Y8NeY2N8Y8N8Y8N8Y8N5Y1N2Y6N1Y3N3Y1N2Y8N4Y2N2Y8N8YaN3Y1N2Y3dN1YdN1YgNdY31N1Y3N2Y3N1YrN1",
    "Y4N1Y4N1Y2N2Y8N4Y4N1YxNgY4N1YnfNqY1fqN1cY1N1Y3N2Y1N1Y1N1Y1N1Y4N1Y1N2Y1N8Y3N1Y1N1Y1N1Y1N1Y1N1",
    "Y1N1Y1N1Y1N1Y1N1Y1N1Y1N1Y1N1Y1N1Y1N1Y1N1Y1N1Y1N1Y1N1Y1N1Y1N1Y1N1Y1N1Y1N1Y1N1Y1N1Y1N1Y1N1Y1N1",
    "Y1N1Y1N1Y1N1Y1N1Y1N1Y1N1Y1N1Y1N1Y1N1Y1N1Y1N1Y1N1Y1N1Y1N1Y1N1Y1N1Y1N1Y1N1Y1N1Y1N1Y1N1Y1N2Y7N1",
    "Y1N1Y4N1YcN12Y1N1Y5N1YnwzN1Y1N1Y1N1Y1N1Y1N1Y1N1Y1N1Y1N1Y1N1Y1N1Y1N1Y1N1Y1N1Y1N1Y1N1Y1N1Y1N1Y",
    "1N1Y1N1Y1N1Y1N1Y1N1Y1N1YjN1Y1N1Y1N1Y1N1Y1N1Y1N1Y1N1Y1N1Y1N1Y1N1Y1N1Y1N1Y1N1Y1N3Y3pN1Y1N1Y1N1",
    "Y1N1Y1N1Y1N1Y1N3Y1N1Y1N1Y1N1Y1N1Y1N1Y1N1Y1N1Y1N1Y1N1Y1N1Y1N1Y1N1Y1N1Y1N1Y1N1Y1N1Y1N1Y1N1Y1N1",
    "Y1N1Y1N1Y1N1Y1N1Y1N1Y1N1Y1N1Y1N1Y1N1Y1N1Y1N1Y1NaY1N1Y1N1Y2N1Y1N1Y1N1Y1N1Y1N1Y4N1Y1N1Y2N1Y1N3",
    "Y1N1Y1N1Y1N1Y1N1Y1N1Y1N1Y1N1Y1N1Y1N1Y1N1Y5N1Y5N1Y1N1Y1N1Y1N1Y1N1Y1N1Y1N1Y1N1Y4N1Y1N1Y2N1Y3N1",
    "Y1N1Y1N1Y1N1Y1N1Y1N1YmN3Y1N1Y1N3YmtN17Y1NeY6N28YfnkN7YcN5YtlNqYy5N14Y3sN10Y4bNbY1NfY1N7Y1N2Y",
    "cjN1Y2N3Y1N16Y1N9YzpN1fY3hNmY27uNwYgw0NwYk2iNqYqN7Y1NiYqNqYqN4Y1N1Y1N7Y1NbYqNqYqNqYqNqYqNqYq",
    "NqYqNqYqNqYqNqYqNsYsNpY1N6YqNpY1N6YqNpY1N6YqNpY1N6YqNpY1N6Y1N1Y1f8NaY1NkY6N6Y79N1qY1pwNyY"]),
    (["math"], [
    "17N1YgN3YvN1YtN1Y1N1Y19N1Y4N1Y11N1YvN1Yk8N3Y2N1YqN2Y2N3YenN3Y559N1YrN3YbN1Y3N1YdN1YeN4YlN5Yb",
    "N5Y1tNdY4N1Y3N2Y4N5YiN1Y4N1Y2NaY1N1Y2N6Y6N1Y3N2Y2N2Y1N3Y1N6Y3NeY1N1Y1wNoY1N6Y1N2Y4N2Y4NwY1N1",
    "Y6N2YeN7gY8N4YkN2Y2iN1YuNrY1N1YoN1YbN7YcdN2YcNaY4N6Y4N2Y2N2Y3N5YeN1Y1N1Y2N6YbN8Y5N2Y1lN1Y1N1",
    "YtN4Y9N3Y9cN1sY74Ne8Y1cNlY2N6Y1524N1YmvN6Y1N1Y4iN1YgN3YtN1Y1N1YtN1Y1N1Y3nN1Y6N4Y2oxN2Y1374N2",
    "dY1N1zY1N2Y2N1Y2N2Y2N4Y1NcY1N1Y1N7Y1N1tY1N4Y2N8Y1N7Y1NsY1N4Y1N5Y1N1Y3N7Y1N9gY2N84Y2N1eY4cgN4",
    "Y1NrY1N2Y1N1Y2N1Y1NaY1N4Y1N1Y1N1Y6N1Y4N1Y1N1Y1N1Y1N3Y1N2Y1N1Y2N1Y1N1Y1N1Y1N1Y1N1Y1N2Y1N1Y2N4",
    "Y1N7Y1N4Y1N4Y1N1Y1NaY1NhY5N3Y1N5Y1NhY1gN2Y"]),
    (["noncharactercodepoint", "nchar"], [
    "1e4wNwYemN2Y1ekeN2Y1ekeN2Y1ekeN2Y1ekeN2Y1ekeN2Y1ekeN2Y1ekeN2Y1ekeN2Y1ekeN2Y1ekeN2Y1ekeN2Y1ek",
    "eN2Y1ekeN2Y1ekeN2Y1ekeN2Y1ekeN2Y"]),
    (["patternsyntax", "patsyn"], [
    "xNfYaN7YqN4Y1N1YqN4YyN7Y1N1Y1N2Y1N1Y1N2Y4N1Y4N1Y3N1YnN1YvN1Y654NoY8NfY2NjY1NaY8hNk0Y4gNhiYuN",
    "siY1N2xYe8N3kYapN3Y4NpYfN1Y14i5N2Y79N2Y"]),
    (["patternwhitespace", "patws"], [
    "9N5YiN1Y2sN1Y688N2YoN2Y"]),
    (["prependedconcatenationmark", "pcm"], [
    "16oN6Y5zN1Y1dN1YaoN2Y28N1Y1g4aN1YfN1Y"]),
    (["quotationmark", "qmark"], [
    "yN1Y4N1Y3nN1YfN1Y670N8YpN2Y2rrN1YcpN4YdN3Y14ptN4Y59N1Y4N1Y2iN2Y"]),
    (["radical"], [
    "96oNqY1N2hYcN5yY"]),
    (["regionalindicator", "ri"], [
    "2qcmNqY"]),
    (["sentenceterminal", "sterm"], [
    "xN1YcN1YgN1Y11lN1Y43N3Y50N1Y17N3Y6uN1Y1pN1Y1N1Y3N2Y85N2Y1d0N2YlyN1Y4N2YlhN1Y5iN2Y4dN2Y19N1Y5",
    "N1Y8qN2Y9uN4Y4iN2YaN2Y2N2YtN3Y57N2Y1tN2YpwN1YnN2Y9N3Y2i7N3Y8iN1YdN1YmN2YbxN1Yn3wN1Y7iN2Y6bN1",
    "Y3N1YamN2Y2eN2Y2nN1Y48N2Y43N3Y40N2Y6xN1Yg86N1Y2N2Y1nN1Y3N2Y4pN1YcN1YgN1Y1tN1Y25wN2YzhN5Y18N4",
    "Y59N2Y39N4Y3jN3Y3lN2Y6N1YgN2Y2gN2Y1N2Y30N1Y8aN2Y39N2YadN2Y5NfY2xN2Y6xN3YedN1Y1N1Y6zN2Y2fN2Yb",
    "oN2Yj8N2Y22N2YeuhN2Y3pN1Y1tN2YbN1YfdN2Y88N1YfeuN1Y5woN1Y"]),
    (["softdotted", "sd"], [
    "2xN2Y5gN1Y7tN1YuN1Y1gN1YkN1Y8wN1Y2qN1Y1N1Y4y1N1Y1fN1YdN1Y3N1Y3oN1Y4dN1YbpN1Y5yN2Y27mN1Y2bolN",
    "2Y1eN2Y1eN2Y1eN2Y1eN2Y1eN2Y1eN2Y1eN2Y1eN2Y1eN2Y1eN2Y1eN2Y1eN2Y1omN1Y8hN2YqN1Y"]),
    (["terminalpunctuation", "term"], [
    "xN1YaN1Y1N1YbN2Y3N1Yn2N1Y8N1Ye9N1Y1lN1Y20N1YeN1Y1N3Y50N1Y17NbY1N1Y6jN2Y1iN6Y1N8YvN1Y79N2Yz8N",
    "2Y4sN1Y4N6Y8nN2YlxN8YlhN1Y3gN3Y1zN2Y4dN3Y3N1Y13N4Y2N2Y8qN2Y9uN4Y4iN2YaN2Y1N3YtN3Y57N5Y1qN2Yp",
    "wN1YnN2Y9N3Y2i7N3Y8iN1YdN1Y4N1YaN1Y1N2Y3N2YbwN2Yn3vN2Y7hN3Y6bN5YamN2Y2eN2Y2nN1Y47N3Y43N3Y3jN",
    "1YgN2Y6xN1Yg86N1Y2N2Y1lN3Y1N4Y4pN1YaN1Y1N1YbN2Y3N1Y1tN1Y2N1Yu2N1Y1cN1Yw6N1Y5jN1Y8mN2Y48N6Y1w",
    "N6Y2hN4YqgN5Y18N4Y59N7Y34N4Y3jN3Y3lN2Y6N1YgN2Y2gN5Y30N1Y8aN2Y39N3YcN2Y9yN4Y3NfY2xN2Y6xN3YedN",
    "1Y1N1Y6zN2Y2fN2Y4N2YbiN3Y19N1YhxN2Y22N2Y10rN5YdtlN2Y3pN1Y1tN3YaN1YfdN2Y87N2YfeuN1Y5wnN4Y"]),
    (["unifiedideograph", "uideo"], [
    "a9sN534Y1sNg74YhseN2Y1N1Y1N2YaN1Y1N1Y1N2Y2N3Y1fpyNwyoYwN37eY6N66Y2N4g2YeN5rlYfNhaY3heN3t7Y5N",
    "38gY"]),
    (["uppercase", "upper"], [
    "1tNqY2tNnY1N7YxN1Y1N1Y1N1Y1N1Y1N1Y1N1Y1N1Y1N1Y1N1Y1N1Y1N1Y1N1Y1N1Y1N1Y1N1Y1N1Y1N1Y1N1Y1N1Y1N",
    "1Y1N1Y1N1Y1N1Y1N1Y1N1Y1N1Y1N1Y1N1Y2N1Y1N1Y1N1Y1N1Y1N1Y1N1Y1N1Y1N1Y2N1Y1N1Y1N1Y1N1Y1N1Y1N1Y1N",
    "1Y1N1Y1N1Y1N1Y1N1Y1N1Y1N1Y1N1Y1N1Y1N1Y1N1Y1N1Y1N1Y1N1Y1N1Y1N1Y1N1Y1N2Y1N1Y1N1Y3N2Y1N1Y1N2Y1N",
    "3Y2N4Y1N2Y1N3Y3N2Y1N2Y1N1Y1N1Y1N2Y1N1Y2N1Y1N2Y1N3Y1N1Y1N2Y3N1Y7N1Y2N1Y2N1Y2N1Y1N1Y1N1Y1N1Y1N",
    "1Y1N1Y1N1Y1N1Y2N1Y1N1Y1N1Y1N1Y1N1Y1N1Y1N1Y1N1Y1N1Y2N1Y2N1Y1N3Y1N1Y1N1Y1N1Y1N1Y1N1Y1N1Y1N1Y1N",
    "1Y1N1Y1N1Y1N1Y1N1Y1N1Y1N1Y1N1Y1N1Y1N1Y1N1Y1N1Y1N1Y1N1Y1N1Y1N1Y1N1Y1N1Y1N1Y1N1Y1N1Y1N1Y7N2Y1N",
    "2Y2N1Y1N4Y1N1Y1N1Y1N1Y1N1Y81N1Y1N1Y3N1Y8N1Y6N1Y1N3Y1N1Y1N2Y1NhY1N9YzN1Y2N3Y3N1Y1N1Y1N1Y1N1Y1",
    "N1Y1N1Y1N1Y1N1Y1N1Y1N1Y1N1Y1N1Y5N1Y2N1Y1N2Y2N1fY1cN1Y1N1Y1N1Y1N1Y1N1Y1N1Y1N1Y1N1Y1N1Y1N1Y1N1",
    "Y1N1Y1N1Y1N1Y1N1Y1N1Y1N1Y9N1Y1N1Y1N1Y1N1Y1N1Y1N1Y1N1Y1N1Y1N1Y1N1Y1N1Y1N1Y1N1Y1N1Y1N1Y1N1Y1N1",
    "Y1N1Y1N1Y1N1Y1N1Y1N1Y1N1Y1N1Y1N1Y1N1Y1N1Y1N2Y1N1Y1N1Y1N1Y1N1Y1N1Y1N1Y2N1Y1N1Y1N1Y1N1Y1N1Y1N1",
    "Y1N1Y1N1Y1N1Y1N1Y1N1Y1N1Y1N1Y1N1Y1N1Y1N1Y1N1Y1N1Y1N1Y1N1Y1N1Y1N1Y1N1Y1N1Y1N1Y1N1Y1N1Y1N1Y1N1",
    "Y1N1Y1N1Y1N1Y1N1Y1N1Y1N1Y1N1Y1N1Y1N1Y1N1Y1N1Y1N1Y1N1Y1N1Y1N1Y1N1Y1N1Y1N1Y1N1Y2N12Y289N12Y1N1",
    "Y5N1Yk2N2eY1ozN1Y6N17Y2N3Y8wN1Y1N1Y1N1Y1N1Y1N1Y1N1Y1N1Y1N1Y1N1Y1N1Y1N1Y1N1Y1N1Y1N1Y1N1Y1N1Y1",
    "N1Y1N1Y1N1Y1N1Y1N1Y1N1Y1N1Y1N1Y1N1Y1N1Y1N1Y1N1Y1N1Y1N1Y1N1Y1N1Y1N1Y1N1Y1N1Y1N1Y1N1Y1N1Y1N1Y1",
    "N1Y1N1Y1N1Y1N1Y1N1Y1N1Y1N1Y1N1Y1N1Y1N1Y1N1Y1N1Y1N1Y1N1Y1N1Y1N1Y1N1Y1N1Y1N1Y1N1Y1N1Y1N1Y1N1Y1",
    "N1Y1N1Y1N1Y1N1Y1N1Y1N1Y1N1Y1N1Y1N1Y1N1Y1N1Y1N1Y1N1Y9N1Y1N1Y1N1Y1N1Y1N1Y1N1Y1N1Y1N1Y1N1Y1N1Y1",
    "N1Y1N1Y1N1Y1N1Y1N1Y1N1Y1N1Y1N1Y1N1Y1N1Y1N1Y1N1Y1N1Y1N1Y1N1Y1N1Y1N1Y1N1Y1N1Y1N1Y1N1Y1N1Y1N1Y1",
    "N1Y1N1Y1N1Y1N1Y1N1Y1N1Y1N1Y1N1Y1N1Y1N1Y1N1Y1N1Y1N1Y1N1Y1N1Y1N1Y9N8Y8N6YaN8Y8N8Y8N6YbN1Y1N1Y1",
    "N1Y1N1Y8N8Y20N4YcN4YcN4YcN5YbN4Y7aN1Y4N1Y3N3Y2N3Y2N1Y3N5Y6N1Y1N1Y1N1Y1N4Y2N4YaN2Y5N1YqNgYjN1",
    "YmqNqY1f4N1cY1cN1Y1N3Y2N1Y1N1Y1N1Y1N4Y1N1Y2N1Y8N3Y1N1Y1N1Y1N1Y1N1Y1N1Y1N1Y1N1Y1N1Y1N1Y1N1Y1N",
    "1Y1N1Y1N1Y1N1Y1N1Y1N1Y1N1Y1N1Y1N1Y1N1Y1N1Y1N1Y1N1Y1N1Y1N1Y1N1Y1N1Y1N1Y1N1Y1N1Y1N1Y1N1Y1N1Y1N",
    "1Y1N1Y1N1Y1N1Y1N1Y1N1Y1N1Y1N1Y1N1Y1N1Y1N1Y1N1Y1N1Y1N1Y1N1Y1N1Y8N1Y1N1Y4N1YnylN1Y1N1Y1N1Y1N1Y",
    "1N1Y1N1Y1N1Y1N1Y1N1Y1N1Y1N1Y1N1Y1N1Y1N1Y1N1Y1N1Y1N1Y1N1Y1N1Y1N1Y1N1Y1N1Y1N1YjN1Y1N1Y1N1Y1N1Y",
    "1N1Y1N1Y1N1Y1N1Y1N1Y1N1Y1N1Y1N1Y1N1Y1N1Y3rN1Y1N1Y1N1Y1N1Y1N1Y1N1Y1N1Y3N1Y1N1Y1N1Y1N1Y1N1Y1N1",
    "Y1N1Y1N1Y1N1Y1N1Y1N1Y1N1Y1N1Y1N1Y1N1Y1N1Y1N1Y1N1Y1N1Y1N1Y1N1Y1N1Y1N1Y1N1Y1N1Y1N1Y1N1Y1N1Y1N1",
    "Y1N1Y1N1YaN1Y1N1Y1N2Y1N1Y1N1Y1N1Y1N1Y4N1Y1N1Y2N1Y1N1Y3N1Y1N1Y1N1Y1N1Y1N1Y1N1Y1N1Y1N1Y1N1Y1N1",
    "Y1N5Y1N5Y1N1Y1N1Y1N1Y1N1Y1N1Y1N1Y1N1Y1N4Y1N1Y1N2Y3N1Y5N1Y1N1Y1N1Y1N1YoN1Yh7vNqYxxN14Y3sN10Y4",
    "cNbY1NfY1N7Y1N2Y1d6N1fY4dNmY27uNwYgw0NwYk2oNqYqNqYqNqYqN1Y1N2Y2N1Y2N2Y2N4Y1N8YqNqYqN2Y1N4Y2N",
    "8Y1N7YrN2Y1N4Y1N5Y1N1Y3N7YrNqYqNqYqNqYqNqYqNqYqNqYuNpYxNpYxNpYxNpYxNpYxN1Y3edNyY1laNqY6NqY6N",
    "qY"]),
    (["variationselector", "vs"], [
    "4qzN3Y1N1Y19f4NgYi9yoN6oY"]),
    (["whitespace", "wspace", "space"], [
    "9N5YiN1Y2sN1YqN1Y4bjN1Y1vjNbYtN2Y5N1Y1bN1Y334N1Y"]),
    (["xidcontinue", "xidc"], [
    "1cNaY7NqY4N1Y1NqY1bN1YaN1Y1N1Y2N1Y5NnY1NvY1NcqY4NcYeN5Y7N1Y1N1YhN39Y1N2Y3N3Y1N1Y6N5Y1N1Y1NkY",
    "1N2bY1N3vY1N5Y2N4mY1N12Y2N1Y6N15Y8N19Y1N1Y1N2Y1N2Y1N1Y8NrY4N4YtNbY5N22Y4N2uY1N8Y2NaY1NjY2N1Y",
    "gN1nY2N2tYeN1iY4N1Y2N1Y2N1aYiNsY4NbY5NoY1N6Y8N23Y1N3lY2NaY1NjY1N8Y2N2Y2NmY1N7Y1N1Y3N4Y2N9Y2N",
    "2Y2N4Y8N1Y4N2Y1N5Y2NcYaN1Y1N1Y2N3Y1N6Y4N2Y2NmY1N7Y1N2Y1N2Y1N2Y2N1Y1N5Y4N2Y2N3Y3N1Y7N4Y1N1Y7N",
    "gYbN3Y1N9Y1N3Y1NmY1N7Y1N2Y1N5Y2NaY1N3Y1N3Y2N1YfN4Y2NaY9N7Y1N3Y1N8Y2N2Y2NmY1N7Y1N2Y1N5Y2N9Y2N",
    "2Y2N3Y7N3Y4N2Y1N5Y2NaY1N1YgN2Y1N6Y3N3Y1N4Y3N2Y1N1Y1N2Y3N2Y3N3Y3NcY4N5Y3N3Y1N4Y2N1Y6N1YeNaYgN",
    "dY1N3Y1NnY1NgY2N9Y1N3Y1N4Y7N2Y1N3Y2N1Y2N4Y2NaYgN4Y1N8Y1N3Y1NnY1NaY1N5Y2N9Y1N3Y1N4Y7N2Y6N2Y1N",
    "4Y2NaY1N3YcNdY1N3Y1N1fY1N3Y1N5Y5N4Y7N5Y2NaYaN6Y1N3Y1NiY3NoY1N9Y1N1Y2N7Y3N1Y4N6Y1N1Y1N8Y6NaY2",
    "N2YdN1mY5NfY1NaY13N2Y1N1Y1N5Y1NoY1N1Y1NnY2N5Y1N1Y1N7Y1NaY2N4YwN1YnN2Y6NaYbN1Y1N1Y1N1Y4NaY1N1",
    "0Y4NkY1NiY1N10Y9N1Y1lN22Y6N26Y2N12Y1N1Y5N1Y2N17Y1N99Y1N4Y2N7Y1N1Y1N4Y2N15Y1N4Y2NxY1N4Y2N7Y1N",
    "1Y1N4Y2NfY1N1lY1N4Y2N1vY2N3Y9N9YeNgYgN2eY2N6Y3Nh8Y2NhY1NqY5N23Y3NbY7NmY9NmYbNkYcNdY1N3Y1N2Yc",
    "N2cY3N1Y4N2Y2NaYxN3Y1NbY6N2hY7N17Y5N1yYaNvY1NcY4NcYaN14Y2N5YbN18Y4NqY6NbY11NsY4N1rY1NtY2NbY6",
    "NaYdN1Y8NeY1NgY1dN25Y3NaYhN9YcN38YcN1kY8NaY3N1dY2NbY5N17Y2N3YgN3Y1N13Y5NeuY2N6Y2N12Y2N6Y2N8Y",
    "1N1Y1N1Y1N1Y1NvY2N1hY1N7Y1N1Y3N3Y1N7Y3N4Y2N6Y4NdY5N3Y1N7YfN2Y1dN2YjN1YsN1YdN1YgNdY1fNdY4N1Y3",
    "NcYhN1Y4N1Y2NaY1N1Y2N6Y6N1Y1N1Y1N1Y1NgY2N4Y5N5Y4N1YhN15Y22fN6dY6N9YcN12Y1N1Y5N1Y2N1kY7N1YfNo",
    "Y9N7Y1N7Y1N7Y1N7Y1N7Y1N7Y1N7Y1N7Y1NwYedN3YpNfY1N5Y2N5Y4N2eY2N2Y2N3Y1N2nY5N17Y1N2mYhNwY1cNgYe",
    "8N534Y1sNh3hY1vN1aY2N7hY3NsYkN1cY4NaY1N37Y11N9Y2N2vY2N1vY2N2Y1N1Y1N8YlN1iY4N1YjN1gYcN1yYaNaY",
    "6NoY3N1Y1N1dY2N10YcNtY3N1tYeNbY6NvY1N1jY9NeY2NaY6NnY3N21YoN3Y2NgY2N5YaN6Y2N6Y2N6Y9N7Y1N7Y1N1",
    "7Y1NeY6N3fY1N2Y2NaY6N8mcYcNnY4N1dY6isNa6Y2N2yY12N7YcN5Y5NcY1NdY1N5Y1N1Y1N2Y1N2Y1N30YxN3vY6N6",
    "2YiN1sY2N1iY14NaY6NgYgNgY3N2YoN3YxN1Y1N1Y3N1Y1N1Y1N1Y1N1Y1N3iYjNaY7NqY4N1Y1NqYaN2iY3N6Y2N6Y2",
    "N6Y2N3YzNcY1NqY1NjY1N2Y1NfY2NeYyN3fY1xN1hY3sN1Y3mNtY3N1dYfN1YvNwYdNuY5N17Y5NuY2N10Y4N8Y1N5Y1",
    "6N4eY2NaY6N10Y4N10Y4N14Y8N1gYcNbY1NfY1N7Y1N2Y1NbY1NfY1N7Y1N2Y3N1gYcN8nY9NmYaN8YoN6Y1N16Y1N9Y",
    "1xN6Y2N1Y1N18Y1N2Y3N1Y2NnYaNnY9NvY1tNjY1N2YaNmYaNqY1yN1kY6N2Y1sN4Y1N2Y5N8Y1N3Y1NtY2N3Y4N1YwN",
    "tY3NtYzN8Y1NuYpN1iYaNmYaNjYdNiY32N21Y1jN1fYdN1fYdN14Y8NaY6N12Y3N5Y1NnY6yN16Y1N2Y3N2YgN3Y1jNx",
    "YaN1Y8NxYvNmY16NlYrNnY9N1zYvNgY9N1oY7N1YdNpY7NaY6N1hY1NaY4N4Y8N10Y2N1Y9N1xY4N4Y1NdY1N1YzNiY1",
    "N11Y6N4Y1qN7Y1N1Y1N4Y1NfY1NaY7N1nY5NaY6N4Y1N8Y2N2Y2NmY1N7Y1N2Y1N5Y1NaY2N2Y2N3Y2N1Y6N1Y5N7Y2N",
    "7Y3N5YbNaY1N1Y2N1Y1N12Y1NaY1N1Y2N1Y1N4Y1N8YdN2YtN23Y5NaY4N4YuN1yY1N1Y8NaY4mN1iY2N9YnN6YyN1tY",
    "3N1YbNaY12N1lY7NaY6NkYsNrY2NfY4NaY6N7Y55N1nY2tN22YlN8Y2N1Y2N8Y1N2Y1NuY1N2Y2N9YcNaY1yN8Y2N1aY",
    "2N8Y1N2YrN1rY8N1Y8N22Y3N1YiN21Y5jNxYfNaY6N9Y1N19Y1N9YfNaYoNuY2NmY1NeY21N7Y1N2Y1N18Y3N1Y1N2Y1",
    "N9Y8NaY6N6Y1N2Y1N11Y1N2Y1N6Y7NaY8mNnY9NhY1N15Y3N5YdNbY2dN1Y27NpmY2uN33YhN5gY218N2pYfNtsYgNmY",
    "aN32zY5Ng7Y5a1N1mY1c6NftY7NvY1NaY6N27Y1NaY6NuY2N5YbN1jY9N4YcNaY9NlY5NjYc0N19Y3NaY5iN1sY3kN23",
    "Y4N1lY7NhY1sN2Y1N2YbN2YeN4qgY8NyeY15NaY6w7N4Y1N7Y1N2Y1N83YfN1YtN3Y2N1YeN4Y8Nb0Y1s4N2zY5NdY3N",
    "9Y7NaY3N2Y381NaYeeN1aY2NnYf2N5Y3N6Y8N8Y2N7YuN4Y44N3YcbN2dY1N1zY1N2Y2N1Y2N2Y2N4Y1NcY1N1Y1N7Y1",
    "N1tY1N4Y2N8Y1N7Y1NsY1N4Y1N5Y1N1Y3N7Y1N9gY2NpY1NpY1NvY1NpY1NvY1NpY1NvY1NpY1NvY1NpY1N8Y2N1eYe8",
    "N1jY4N1eY8N1YeN1YmN5Y1NfYuoNvY6N6Y5xN7Y1NhY2N7Y1N2Y1N5Y5N1qYxN1Y34N19Y3NeY2NaY4N1Y8xNvYhN1mY",
    "d2N16Y5yN17YdhN7Y1N4Y1N2Y1NfY1N5hYbN7Y15N24Y4NaYx2N4Y1NrY1N2Y1N1Y2N1Y1NaY1N4Y1N1Y1N1Y6N1Y4N1",
    "Y1N1Y1N1Y1N3Y1N2Y1N1Y2N1Y1N1Y1N1Y1N1Y1N1Y1N2Y1N1Y2N4Y1N7Y1N4Y1N4Y1N1Y1NaY1NhY5N3Y1N5Y1NhY2lw",
    "NaYsmNwyoYwN37eY6N66Y2N4g2YeN5rlYfNhaY1wiNf2Y15uN3t7Y5N38gYf9e8N6oY"]),
    (["xidstart", "xids"], [
    "1tNqY6NqY1bN1YaN1Y4N1Y5NnY1NvY1NcqY4NcYeN5Y7N1Y1N1Y3lN5Y1N2Y3N3Y1N1Y6N1Y1N3Y1N1Y1NkY1N2bY1N3",
    "vY8N4mY1N12Y2N1Y6N15Y1zNrY4N4Y19N17YzN2Y1N2rY1N1YfN2Y7N2YaN3Y2N1YgN1Y1NuYtN2hYbN1YoNxY9N2Y4N",
    "1Y5NmY4N1Y9N1Y3N1YnNpY7NbY5NoY1N6YhN16Y1mN1iY3N1YiN1Y7NaYfNgY4N8Y2N2Y2NmY1N7Y1N1Y3N4Y3N1YgN1",
    "YdN2Y1N3YeN2YaN1Y8N6Y4N2Y2NmY1N7Y1N2Y1N2Y1N2YvN4Y1N1YjN3YgN9Y1N3Y1NmY1N7Y1N2Y1N5Y3N1YiN1YfN2",
    "YnN1YbN8Y2N2Y2NmY1N7Y1N2Y1N5Y3N1YuN2Y1N3YfN1YhN1Y1N6Y3N3Y1N4Y3N2Y1N1Y1N2Y3N2Y3N3Y3NcYmN1Y1gN",
    "8Y1N3Y1NnY1NgY3N1YqN3Y2N1Y2N2YuN1Y4N8Y1N3Y1NnY1NaY1N5Y3N1YvN2Y1N2YfN2YhN9Y1N3Y1N15Y2N1YgN1Y5",
    "N3Y8N3YoN6Y5NiY3NoY1N9Y1N1Y2N7Y1mN1cY1N1YdN7Y1mN2Y1N1Y1N5Y1NoY1N1Y1NaY1N1YaN1Y2N5Y1N1YlN4YwN",
    "1Y1rN8Y1N10YrN5Y37N17YkN1YgN6Y4N4Y3N1Y3N2Y7N3Y4NdYcN1YhN12Y1N1Y5N1Y2N17Y1N99Y1N4Y2N7Y1N1Y1N4",
    "Y2N15Y1N4Y2NxY1N4Y2N7Y1N1Y1N4Y2NfY1N1lY1N4Y2N1vY11NgYgN2eY2N6Y3Nh8Y2NhY1NqY5N23Y3NbY7NiYdNjY",
    "eNiYeNdY1N3YfN1gYzN1Y4N1Y1vN2hY7N15Y1N1Y5N1yYaNvY1dNuY2N5YbN18Y4NqY1iNnY9N1hY2aN1Y2lN1bYhN8Y",
    "1iNuYdN2YaN18YqN10Y15N3YaN10Y2NbY5N17Y2N3Y15N4Y1N6Y1N2Y3N1Y5N5cY1sN7qY2N6Y2N12Y2N6Y2N8Y1N1Y1",
    "N1Y1N1Y1NvY2N1hY1N7Y1N1Y3N3Y1N7Y3N4Y2N6Y4NdY5N3Y1N7Y38N1YdN1YgNdY2tN1Y4N1Y2NaY1N1Y2N6Y6N1Y1N",
    "1Y1N1Y1NgY2N4Y5N5Y4N1YhN15Y22fN6dY6N4Y3N2YcN12Y1N1Y5N1Y2N1kY7N1YgNnY9N7Y1N7Y1N7Y1N7Y1N7Y1N7Y",
    "1N7Y1N7YfaN3YpN9Y7N5Y2N5Y4N2eY6N3Y1N2iY1N4Y5N17Y1N2mYhNwY1cNgYe8N534Y1sNh3hY1vN1aY2N7hY3NgYa",
    "N2YkN1bYgNvY2N28Y13N9Y2N2vY2N1vY2N2Y1N1Y1N8YlNgY1N3Y1N4Y1NnYtN1gYeN1eY1qN6Y3N1Y1N2YbNsYaNnYp",
    "NtY7N1bYsN1YgN5Y1NaYaN5Y1N15YnN3Y1N8YkNnY3N1Y3N1eY1N1Y3N2Y2N5Y2N1Y1N1YoN3Y2NbY7N3YcN6Y2N6Y2N",
    "6Y9N7Y1N7Y1N17Y1NeY6N37YtN8mcYcNnY4N1dY6isNa6Y2N2yY12N7YcN5Y5N1Y1NaY1NdY1N5Y1N1Y1N2Y1N2Y1N30",
    "YxN3vY6N62YiN1sY2N1iY14NaY3bN1Y1N1Y3N1Y1N1Y1N1Y1N1Y1N3iY10NqY6NqYbN1kY2NvY3N6Y2N6Y2N6Y2N3YzN",
    "cY1NqY1NjY1N2Y1NfY2NeYyN3fY1xN1hY7fNtY3N1dY1bNwYdNuY5N12YaNuY2N10Y4N8Y1N5Y16N4eYiN10Y4N10Y4N",
    "14Y8N1gYcNbY1NfY1N7Y1N2Y1NbY1NfY1N7Y1N2Y3N1gYcN8nY9NmYaN8YoN6Y1N16Y1N9Y1xN6Y2N1Y1N18Y1N2Y3N1",
    "Y2NnYaNnY9NvY1tNjY1N2YaNmYaNqY1yN1kY6N2Y1sN1YfN4Y1N3Y1NtY16NtY3NtYzN8Y1NsYrN1iYaNmYaNjYdNiY3",
    "2N21Y1jN1fYdN1fYdN10Y12NsY9NnY6yN16Y6N2YgN3Y1nNtYaN1Y8NmY16NiY1aNlYrNnYcN1hY1lN2Y2N1YdN19YwN",
    "pYqN10YtN1Y2N1Y8NzY3N1YcN1cYeN4YlN1Y1N1YzNiY1NpYjN2Y1rN7Y1N1Y1N4Y1NfY1NaY7N1bY12N8Y2N2Y2NmY1",
    "N7Y1N2Y1N5Y3N1YiN1YcN5YuNaY1N1Y2N1Y1N12Y1N1YpN1Y1N1Y18N1hYiN4YkN3YuN1cYkN2Y1N1Y54N1bY15N4Y10",
    "N1cYkN1Y1nN17YdN1Y1zNrY11N7Y55N18Y38N1sYvN8Y2N1Y2N8Y1N2Y1NoYfN1Y1N1Y2mN8Y2N13YgN1Y1N1YsN1YaN",
    "14Y7N1YlN1YbN1aYjN1YiN21Y5jNxYvN9Y1N11YhN1Y1dNuY34N7Y1N2Y1N12YlN1YpN6Y1N2Y1NwYeN1Y93NjYfN1Y1",
    "NdY1NyY3gN1Y27NpmY2uN33YhN5gY218N2pYfNtsYhN6YpN32zY5Ng7Y5a1NuY1cyNftY7NvYhN27YhNuYiN1cYgN4Yv",
    "NlY5NjYc0N19Y5vN1sY3kN23Y5N1Y1uNdY1sN2Y1N1YsN4qgY8NyeY15NaY6w7N4Y1N7Y1N2Y1N83YfN1YtN3Y2N1YeN",
    "4Y8Nb0Y1s4N2zY5NdY3N9Y7NaY4meN2dY1N1zY1N2Y2N1Y2N2Y2N4Y1NcY1N1Y1N7Y1N1tY1N4Y2N8Y1N7Y1NsY1N4Y1",
    "N5Y1N1Y3N7Y1N9gY2NpY1NpY1NvY1NpY1NvY1NpY1NvY1NpY1NvY1NpY1N8Y1f8NvY6N6Y79N1qY42N19YaN7YgN1Y8x",
    "NuYiN18YdgNsY6cNuY2N1YdrN7Y1N4Y1N2Y1NfY1N5hY1nN1wY7N1YxgN4Y1NrY1N2Y1N1Y2N1Y1NaY1N4Y1N1Y1N1Y6",
    "N1Y4N1Y1N1Y1N1Y1N3Y1N2Y1N1Y2N1Y1N1Y1N1Y1N1Y1N1Y1N2Y1N1Y2N4Y1N7Y1N4Y1N4Y1N1Y1NaY1NhY5N3Y1N5Y1",
    "NhY3esNwyoYwN37eY6N66Y2N4g2YeN5rlYfNhaY1wiNf2Y15uN3t7Y5N38gY"])]

/-- The names of properties that are no binary ones, or have no table here. -/
def otherProperties : List String :=
  ["age", "bidiclass", "bc", "bidimirroringglyph", "bmg", "bidipairedbracket", "bpb",
    "bidipairedbrackettype", "bpt", "block", "blk", "canonicalcombiningclass", "ccc",
    "casefolding", "cf", "cjkaccountingnumeric", "kaccountingnumeric",
    "cjkcompatibilityvariant", "kcompatibilityvariant", "cjkiicore", "kiicore", "cjkirggsource",
    "kirggsource", "cjkirghsource", "kirghsource", "cjkirgjsource", "kirgjsource",
    "cjkirgkpsource", "kirgkpsource", "cjkirgksource", "kirgksource", "cjkirgmsource",
    "kirgmsource", "cjkirgssource", "kirgssource", "cjkirgtsource", "kirgtsource",
    "cjkirguksource", "kirguksource", "cjkirgusource", "kirgusource", "cjkirgvsource",
    "kirgvsource", "cjkothernumeric", "kothernumeric", "cjkprimarynumeric", "kprimarynumeric",
    "cjkrsunicode", "krsunicode", "unicoderadicalstroke", "urs", "decompositionmapping", "dm",
    "decompositiontype", "dt", "eastasianwidth", "ea", "equivalentunifiedideograph", "equideo",
    "fcnfkcclosure", "fcnfkc", "generalcategory", "gc", "graphemeclusterbreak", "gcb",
    "hangulsyllabletype", "hst", "indicconjunctbreak", "incb", "indicpositionalcategory",
    "inpc", "indicsyllabiccategory", "insc", "isc", "jamoshortname", "jsn", "joininggroup",
    "jg", "joiningtype", "jt", "linebreak", "lb", "lowercasemapping", "lc", "name", "na",
    "namealias", "nfcquickcheck", "nfcqc", "nfdquickcheck", "nfdqc", "nfkccasefold", "nfkccf",
    "nfkcquickcheck", "nfkcqc", "nfkcsimplecasefold", "nfkcscf", "nfkdquickcheck", "nfkdqc",
    "numerictype", "nt", "numericvalue", "nv", "script", "sc", "scriptextensions", "scx",
    "sentencebreak", "sb", "simplecasefolding", "scf", "sfc", "simplelowercasemapping", "slc",
    "simpletitlecasemapping", "stc", "simpleuppercasemapping", "suc", "titlecasemapping", "tc",
    "unicode1name", "na1", "uppercasemapping", "uc", "verticalorientation", "vo", "wordbreak",
    "wb", "compositionexclusion", "ce", "fullcompositionexclusion", "compex", "expandsonnfc",
    "xonfc", "expandsonnfd", "xonfd", "expandsonnfkc", "xonfkc", "expandsonnfkd", "xonfkd",
    "changeswhennfkccasefolded", "cwkcf", "otheralphabetic",
    "oalpha", "otherdefaultignorablecodepoint", "odi", "othergraphemeextend", "ogrext",
    "otheridcontinue", "oidc", "otheridstart", "oids", "otherlowercase", "olower", "othermath",
    "omath", "otheruppercase", "oupper",
    "modifiercombiningmark", "mcm", "idcompatmathcontinue", "idcmcontinue", "idcompatmathstart"]

/-- The code points with the named binary property. -/
def property? (name : String) : Option CharSet :=
  (propertyTable.find? fun (names, _) => names.contains name).map fun (_, table) => members table

def isProperty (name : String) : Bool :=
  (propertyTable.any fun (names, _) => names.contains name) || otherProperties.contains name

end Retry.Unicode
